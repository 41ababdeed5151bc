import Mathlib.Algebra.BigOperators.Group.Finset.Basic
import Mathlib.Algebra.GroupWithZero.Nat
import WorkflowSearch.Proofs.Lists
import WorkflowSearch.Tally

namespace WorkflowSearch

variable {β : Type}

theorem sum_filter_ne_zero (entries : List (β × ℕ)) :
    ((entries.filter fun (_, n) ↦ n != 0).map Prod.snd).sum = (entries.map Prod.snd).sum := by
  induction entries with
  | nil => rfl
  | cons entry entries ih =>
    by_cases hzero : entry.2 = 0 <;> simp [hzero, ih]

theorem mostFrequent?_eq_none_iff {entries : List (β × ℕ)} :
    mostFrequent? entries = none ↔ entries = [] := by
  cases entries <;> simp [mostFrequent?]

theorem mostFrequent?_spec {entries : List (β × ℕ)} {b : β}
    (h : mostFrequent? entries = some b) :
    ∃ before n after, entries = before ++ (b, n) :: after ∧
      (∀ entry ∈ before, entry.2 < n) ∧ ∀ entry ∈ after, entry.2 ≤ n := by
  cases entries with
  | nil => cases h
  | cons first rest =>
    obtain ⟨before, best, after, hentries, hfold, hbefore, hafter⟩ :=
      foldl_first_greatest (r := fun a b : β × ℕ ↦ a.2 < b.2) (fun _ _ ↦ Nat.lt_asymm) rest first
        (fun a _ b _ c _ hless ↦ by omega)
    rw [mostFrequent?, hfold] at h
    obtain rfl := Option.some.inj h
    exact ⟨before, best.2, after, hentries, hbefore, fun entry hentry ↦
      Nat.le_of_not_lt (hafter entry hentry)⟩

section Tally

variable [DecidableEq β] {all values : List β} {b : β}

theorem mem_tally {n : ℕ} :
    (b, n) ∈ tally all values ↔ b ∈ all ∧ n = values.count b ∧ n ≠ 0 := by
  simp only [tally, List.mem_filter, List.mem_map, Prod.mk.injEq, bne_iff_ne]
  constructor
  · rintro ⟨⟨_, hmem, rfl, rfl⟩, hn⟩
    exact ⟨hmem, rfl, hn⟩
  · rintro ⟨hmem, rfl, hn⟩
    exact ⟨⟨b, hmem, rfl, rfl⟩, hn⟩

theorem filter_pos_tally (all values : List β) :
    (tally all values).filter (0 < ·.2) = tally all values :=
  List.filter_eq_self.mpr fun _ hentry ↦
    decide_eq_true (Nat.pos_of_ne_zero (mem_tally.mp hentry).2.2)

theorem count_map_eq_countP {γ : Type} (view : γ → β) (items : List γ) (b : β) :
    (items.map view).count b = items.countP (view · = b) := by
  rw [List.count, List.countP_map]
  rfl

theorem mem_tally_map {γ : Type} (hall : ∀ b, b ∈ all) (view : γ → β) (items : List γ) (b : β)
    (n : ℕ) : (b, n) ∈ tally all (items.map view) ↔ n = items.countP (view · = b) ∧ n ≠ 0 := by
  rw [mem_tally, and_iff_right (hall b), count_map_eq_countP]

theorem keys_tally_sublist (all values : List β) :
    ((tally all values).map Prod.fst).Sublist all := by
  have hkeys : (all.map fun b ↦ (b, values.count b)).map Prod.fst = all := by
    rw [List.map_map]
    exact List.map_id' all
  have hsublist := (List.filter_sublist (l := all.map fun b ↦ (b, values.count b))
    (p := fun (_, n) ↦ n != 0)).map Prod.fst
  rwa [hkeys] at hsublist

theorem nodup_keys_tally (h : all.Nodup) (values : List β) :
    ((tally all values).map Prod.fst).Nodup :=
  h.sublist (keys_tally_sublist all values)

theorem sum_tally (h : all.Nodup) (hall : ∀ b, b ∈ all) (values : List β) :
    ((tally all values).map Prod.snd).sum = values.length :=
  calc ((tally all values).map Prod.snd).sum
      = (all.map values.count).sum := by
        rw [tally, sum_filter_ne_zero, List.map_map]
        rfl
    _ = ∑ b ∈ all.toFinset, (values : Multiset β).count b := by
        simp only [Multiset.coe_count, List.sum_toFinset _ h]
    _ = (values : Multiset β).card :=
        Multiset.sum_count_eq_card fun b _ ↦ List.mem_toFinset.mpr (hall b)
    _ = values.length := Multiset.coe_card values

theorem tally_eq_nil_iff (hall : ∀ b, b ∈ all) : tally all values = [] ↔ values = [] := by
  constructor
  · intro hnone
    rw [List.eq_nil_iff_forall_not_mem]
    intro b hb
    have hmem := mem_tally.mpr ⟨hall b, rfl, (List.count_pos_iff.mpr hb).ne'⟩
    exact List.not_mem_nil (hnone ▸ hmem)
  · rintro rfl
    simp [tally]

theorem idxOf_lt_of_sublist {keys before after : List β} {b' : β} (h : all.Nodup)
    (hkeys : keys.Sublist all) (hsplit : keys = before ++ b :: after) (hafter : b' ∈ after) :
    all.idxOf b < all.idxOf b' := by
  have hpairwise : all.Pairwise fun c c' ↦ all.idxOf c < all.idxOf c' := by
    rw [List.pairwise_iff_getElem]
    intro i j hi hj hlt
    rwa [h.idxOf_getElem, h.idxOf_getElem]
  have htail : (b :: after).Pairwise fun c c' ↦ all.idxOf c < all.idxOf c' :=
    (hpairwise.sublist (hsplit ▸ hkeys)).sublist (List.sublist_append_right before _)
  exact List.rel_of_pairwise_cons htail hafter

theorem mostFrequent?_tally_eq_some_iff (h : all.Nodup) (hall : ∀ b, b ∈ all) :
    mostFrequent? (tally all values) = some b ↔
      values.count b ≠ 0 ∧ ∀ b', values.count b' ≤ values.count b ∧
        (values.count b' = values.count b → all.idxOf b ≤ all.idxOf b') := by
  have hspec {b : β} (hbest : mostFrequent? (tally all values) = some b) :
      values.count b ≠ 0 ∧ ∀ b', values.count b' ≤ values.count b ∧
        (values.count b' = values.count b → all.idxOf b ≤ all.idxOf b') := by
    obtain ⟨before, n, after, hentries, hbefore, hafter⟩ := mostFrequent?_spec hbest
    obtain ⟨-, rfl, hsome⟩ :=
      mem_tally.mp (hentries ▸ List.mem_append_right before List.mem_cons_self)
    refine ⟨hsome, fun b' ↦ ?_⟩
    by_cases hzero : values.count b' = 0
    · omega
    have hmem := mem_tally.mpr ⟨hall b', rfl, hzero⟩
    rw [hentries, List.mem_append, List.mem_cons] at hmem
    obtain hmem | hmem | hmem := hmem
    · have := hbefore _ hmem
      omega
    · rw [(Prod.mk.inj hmem).1]
      exact ⟨le_rfl, fun _ ↦ le_rfl⟩
    · have hkeys := congrArg (List.map Prod.fst) hentries
      rw [List.map_append, List.map_cons] at hkeys
      exact ⟨hafter _ hmem, fun _ ↦ (idxOf_lt_of_sublist h (keys_tally_sublist all values) hkeys
        (List.mem_map_of_mem (f := Prod.fst) hmem)).le⟩
  refine ⟨hspec, fun ⟨hsome, hbest⟩ ↦ ?_⟩
  -- Some value is the most frequent, and no two values are the first with the greatest count.
  cases hfound : mostFrequent? (tally all values) with
  | none =>
    rw [mostFrequent?_eq_none_iff, tally_eq_nil_iff hall] at hfound
    exact absurd (by rw [hfound, List.count_nil]) hsome
  | some b' =>
    obtain ⟨-, hbest'⟩ := hspec hfound
    have hcount : values.count b = values.count b' :=
      Nat.le_antisymm (hbest' b).1 (hbest b').1
    have hindex := Nat.le_antisymm ((hbest b').2 hcount.symm) ((hbest' b).2 hcount)
    rw [(List.idxOf_inj (hall b)).mp hindex]

end Tally

end WorkflowSearch
