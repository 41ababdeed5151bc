import Mathlib.Data.List.Basic
import Mathlib.Data.List.Forall2
import Mathlib.Data.List.Induction
import Mathlib.Data.List.Nodup
import Mathlib.Tactic.Common

namespace WorkflowSearch

variable {β γ : Type}

theorem map_modify_of_forall {f : β → β} {g : β → γ} (h : ∀ b, g (f b) = g b) (l : List β)
    (i : ℕ) : (l.modify i f).map g = l.map g := by
  apply List.ext_getElem?
  intro j
  rw [List.getElem?_map, List.getElem?_modify, List.getElem?_map]
  by_cases hij : i = j
  · simp [hij, Option.map_map, Function.comp_def, h]
  · simp [hij]

theorem exists_of_mem_modify {f : β → β} {l : List β} {i : ℕ} {b : β} (h : b ∈ l.modify i f) :
    ∃ a ∈ l, b = a ∨ b = f a := by
  obtain ⟨j, hj⟩ := List.getElem?_of_mem h
  rw [List.getElem?_modify, Option.map_eq_map, Option.map_eq_some_iff] at hj
  obtain ⟨a, ha, rfl⟩ := hj
  exact ⟨a, List.mem_of_getElem? ha, (ite_eq_or_eq (i = j) (f a) a).symm⟩

theorem map_set_of_eq {g : β → γ} {l : List β} {i : ℕ} {a b : β} (ha : l[i]? = some a)
    (h : g b = g a) : (l.set i b).map g = l.map g := by
  have hself : (l.map g)[i]? = some (g a) := by rw [List.getElem?_map, ha, Option.map_some]
  obtain ⟨hlt, hself⟩ := List.getElem?_eq_some_iff.mp hself
  rw [List.map_set, h, ← hself, List.set_getElem_self]

theorem getElem?_foldl_modify {f : β → β} {path : List ℕ} (h : path.Nodup) (l : List β) (j : ℕ) :
    (path.foldl (fun l i ↦ l.modify i f) l)[j]? = l[j]?.map fun b ↦ if j ∈ path then f b else b := by
  induction path generalizing l with
  | nil => simp
  | cons i path ih =>
    obtain ⟨hi, hpath⟩ := List.nodup_cons.mp h
    rw [List.foldl_cons, ih hpath, List.getElem?_modify, Option.map_eq_map, Option.map_map]
    congr 1
    funext b
    by_cases hij : i = j
    · subst hij
      simp [hi]
    · have hji : j ≠ i := Ne.symm hij
      simp [hij, hji]

theorem getElem?_concat_cases {l : List β} {last b : β} {i : ℕ} (h : (l ++ [last])[i]? = some b) :
    (i < l.length ∧ l[i]? = some b) ∨ (i = l.length ∧ last = b) := by
  rcases Nat.lt_or_ge i l.length with hlt | hge
  · rw [List.getElem?_append_left hlt] at h
    exact .inl ⟨hlt, h⟩
  · rw [List.getElem?_append_right hge, List.getElem?_singleton] at h
    split at h
    · exact .inr ⟨by omega, Option.some.inj h⟩
    · cases h

theorem append_cons_eq_concat {l before after : List β} {last b : β}
    (h : l ++ [last] = before ++ b :: after) :
    (before = l ∧ b = last) ∨ ∃ rest, l = before ++ b :: rest := by
  rcases List.eq_nil_or_concat after with rfl | ⟨rest, last', rfl⟩
  · obtain ⟨hbefore, hlast⟩ := List.append_inj' h rfl
    exact .inl ⟨hbefore.symm, (List.singleton_inj.mp hlast).symm⟩
  · rw [List.concat_eq_append, ← List.cons_append, ← List.append_assoc] at h
    exact .inr ⟨rest, (List.append_inj' h rfl).1⟩

theorem filter_key_eq_singleton [DecidableEq γ] {key : β → γ} {l : List β}
    (h : (l.map key).Nodup) {b : β} (hb : b ∈ l) : l.filter (key · = key b) = [b] := by
  obtain ⟨before, after, rfl⟩ := List.append_of_mem hb
  rw [List.map_append, List.map_cons, List.nodup_middle, List.nodup_cons, ← List.map_append] at h
  have hother : ∀ c ∈ before ++ after, ¬ decide (key c = key b) = true := by
    intro c hc hkey
    exact h.1 (of_decide_eq_true hkey ▸ List.mem_map_of_mem hc)
  rw [List.forall_mem_append] at hother
  rw [List.filter_append, List.filter_cons, if_pos (decide_eq_true rfl),
    List.filter_eq_nil_iff.mpr hother.1, List.filter_eq_nil_iff.mpr hother.2, List.nil_append]

theorem forall₂_filterMap {p : β → Bool} {f : β → Option γ} {r : β → γ → Prop}
    (h : ∀ b, (p b = true ∧ ∃ c, f b = some c ∧ r b c) ∨ (p b = false ∧ f b = none)) (l : List β) :
    List.Forall₂ r (l.filter p) (l.filterMap f) := by
  induction l with
  | nil => exact .nil
  | cons b l ih =>
    obtain ⟨hp, c, hc, hr⟩ | ⟨hp, hnone⟩ := h b
    · rw [List.filter_cons, if_pos hp, List.filterMap_cons_some hc]
      exact .cons hr ih
    · rwa [List.filter_cons, hp, if_neg Bool.false_ne_true, List.filterMap_cons_none hnone]

theorem length_filter_key_ne [DecidableEq γ] {key : β → γ} {l : List β} (h : (l.map key).Nodup)
    (k : γ) : (l.filter (key · ≠ k)).length = l.length - if ∃ b ∈ l, key b = k then 1 else 0 := by
  have hcount : l.countP (key · = k) = if ∃ b ∈ l, key b = k then 1 else 0 := by
    simpa [List.count, List.countP_map, Function.comp_def, Bool.beq_eq_decide_eq] using h.count (a := k)
  have hsplit : l.length = l.countP (key · = k) + (l.filter (key · ≠ k)).length := by
    rw [← List.countP_eq_length_filter]
    simpa using List.length_eq_countP_add_countP (fun b ↦ key b = k) (l := l)
  omega

theorem find?_key_eq_some [BEq γ] [LawfulBEq γ] {key : β → γ} {l : List β} (h : (l.map key).Nodup)
    {b : β} (hb : b ∈ l) : l.find? (key · == key b) = some b := by
  cases hfound : l.find? (key · == key b) with
  | none => simpa using List.find?_eq_none.mp hfound b hb
  | some found =>
    have hkey : key found = key b := by simpa using List.find?_some hfound
    rw [List.inj_on_of_nodup_map h (List.mem_of_find?_eq_some hfound) hb hkey]

theorem foldl_mem_cons {step : β → β → β} (hstep : ∀ a b, step a b = a ∨ step a b = b)
    (items : List β) (first : β) : items.foldl step first ∈ first :: items := by
  induction items generalizing first with
  | nil => exact List.mem_cons_self
  | cons item items ih =>
    rw [List.foldl_cons]
    rcases List.mem_cons.mp (ih (step first item)) with hlast | hlast
    · rw [hlast]
      rcases hstep first item with hkept | htaken
      · rw [hkept]
        exact List.mem_cons_self
      · rw [htaken]
        exact List.mem_cons_of_mem _ List.mem_cons_self
    · exact List.mem_cons_of_mem _ (List.mem_cons_of_mem _ hlast)

theorem foldl_first_greatest {r : β → β → Prop} [DecidableRel r]
    (asymm : ∀ a b, r a b → ¬ r b a) (items : List β) (first : β)
    (between : ∀ a ∈ first :: items, ∀ b ∈ first :: items, ∀ c ∈ first :: items,
      r a b → r a c ∨ r c b) :
    ∃ before best after, first :: items = before ++ best :: after ∧
      items.foldl (fun best b ↦ if r best b then b else best) first = best ∧
      (∀ b ∈ before, r b best) ∧ ∀ b ∈ after, ¬ r best b := by
  induction items using List.reverseRecOn with
  | nil => exact ⟨[], first, [], rfl, rfl, by simp, by simp⟩
  | append_singleton items last ih =>
    have hinit {a : β} (ha : a ∈ first :: items) : a ∈ first :: (items ++ [last]) := by
      rw [← List.cons_append]
      exact List.mem_append_left _ ha
    obtain ⟨before, best, after, hitems, hfold, hbefore, hafter⟩ := ih fun a ha b hb c hc ↦
      between a (hinit ha) b (hinit hb) c (hinit hc)
    rw [List.foldl_append, List.foldl_cons, List.foldl_nil, hfold]
    by_cases hless : r best last
    · refine ⟨first :: items, last, [], rfl, if_pos hless, fun b hb ↦ ?_, by simp⟩
      have hbest : best ∈ first :: items := hitems ▸ by simp
      obtain hgreater | hdone := between best (hinit hbest) last (by simp) b (hinit hb) hless
      · -- None of the items so far is greater than the best of them.
        rw [hitems, List.mem_append, List.mem_cons] at hb
        obtain hb | rfl | hb := hb
        · exact absurd hgreater (asymm b best (hbefore b hb))
        · exact hless
        · exact absurd hgreater (hafter b hb)
      · exact hdone
    · refine ⟨before, best, after ++ [last], ?_, if_neg hless, hbefore, ?_⟩
      · rw [← List.cons_append, hitems, List.append_assoc, List.cons_append]
      · rw [List.forall_mem_append, List.forall_mem_singleton]
        exact ⟨hafter, hless⟩

theorem eq_of_map_eq {f : β → γ} {l l' : List β}
    (hinj : ∀ b ∈ l, ∀ b' ∈ l', f b = f b' → b = b') (h : l.map f = l'.map f) : l = l' := by
  induction l generalizing l' with
  | nil => exact (List.map_eq_nil_iff.mp h.symm).symm
  | cons b l ih =>
    obtain ⟨b', l', rfl, hfirst, hrest⟩ := List.map_eq_cons_iff.mp h.symm
    rw [List.forall_mem_cons] at hinj
    obtain rfl := hinj.1 b' List.mem_cons_self hfirst.symm
    rw [ih (fun b hb b' hb' ↦ hinj.2 b hb b' (List.mem_cons_of_mem _ hb')) hrest.symm]

theorem nodup_eraseDups [BEq β] [LawfulBEq β] : ∀ l : List β, l.eraseDups.Nodup
  | [] => by simp
  | b :: l => by
    rw [List.eraseDups_cons, List.nodup_cons, List.mem_eraseDups]
    exact ⟨by simp, nodup_eraseDups _⟩
termination_by l => l.length
decreasing_by exact Nat.lt_succ_of_le (List.length_filter_le _ _)

end WorkflowSearch
