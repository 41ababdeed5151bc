import Mathlib.Tactic.Common
import WorkflowSearch.Text.Lowercase

namespace WorkflowSearch.Text

theorem mem_of_bisect {β : Type} {side : β → Ordering} {entries : Array β} {lo hi : ℕ} {entry : β}
    (h : bisect side entries lo hi = some entry) : entry ∈ entries := by
  fun_induction bisect side entries lo hi with
  | case1 => cases h
  | case2 lo hi _ middle hmiddle _ ih => exact ih h
  | case3 lo hi _ middle hmiddle _ =>
    obtain rfl := Option.some.inj h
    exact Array.mem_of_getElem? hmiddle
  | case4 lo hi _ middle hmiddle _ ih => exact ih h
  | case5 => cases h

theorem ofNat_ne_space {n : ℕ} (h : n ≠ 0x20) : Char.ofNat n ≠ ' ' := by
  by_cases hvalid : n.isValidChar
  · have hchar : Char.ofNat n = Char.ofNatAux n hvalid := dif_pos hvalid
    rw [hchar]
    exact fun hspace ↦ h (congrArg Char.toNat hspace)
  · have hchar : Char.ofNat n = '\x00' := dif_neg hvalid
    rw [hchar]
    decide

theorem toLower_ne_space {c : Char} (h : c ≠ ' ') : c.toLower ≠ ' ' := by
  unfold Char.toLower
  split
  · next hcapital =>
    intro hspace
    have hlow : 65 ≤ c.toNat := hcapital.1
    have hhigh : c.toNat ≤ 90 := hcapital.2
    have hvalue : (c.toNat + 32) % 2 ^ 32 = 32 := congrArg Char.toNat hspace
    omega
  · exact h

theorem capitalRuns_targets : capitalRuns.all (fun run ↦ 0x20 < run.target) = true := by
  decide +kernel

theorem lowerChar_ne_nil (c : Char) : lowerChar c ≠ [] := by
  unfold lowerChar
  split
  · simp
  · split
    · simp
    · split
      · dsimp only
        split <;> simp
      · simp

theorem lowercase_ne_empty {s : String} (h : s ≠ "") : lowercase s ≠ "" := by
  obtain ⟨c, cs, hcons⟩ := List.exists_cons_of_ne_nil (mt String.toList_eq_nil_iff.mp h)
  have hsmall : lowerAfter [] s.toList ≠ [] := by
    rw [hcons, lowerAfter]
    split
    · simp
    · simp [lowerChar_ne_nil]
  simpa [lowercase] using hsmall

theorem space_not_mem_lowerChar {c : Char} (h : c ≠ ' ') : ' ' ∉ lowerChar c := by
  unfold lowerChar
  split
  · exact mt List.mem_singleton.mp (toLower_ne_space h).symm
  · split
    · decide
    · split
      · next run hrun =>
        have htarget :=
          Array.all_eq_true_iff_forall_mem.mp capitalRuns_targets run (mem_of_bisect hrun)
        dsimp only
        split
        · refine mt List.mem_singleton.mp (ofNat_ne_space ?_).symm
          have := of_decide_eq_true htarget
          omega
        · exact mt List.mem_singleton.mp h.symm
      · exact mt List.mem_singleton.mp h.symm

theorem space_not_mem_lowerAfter {before cs : List Char} (h : ' ' ∉ cs) :
    ' ' ∉ lowerAfter before cs := by
  induction cs generalizing before with
  | nil => exact h
  | cons c cs ih =>
    obtain ⟨hc, hcs⟩ := not_or.mp (mt List.mem_cons.mpr h)
    rw [lowerAfter, List.mem_append, not_or]
    refine ⟨?_, ih hcs⟩
    split
    · split <;> decide
    · exact space_not_mem_lowerChar (Ne.symm hc)

theorem space_not_mem_lowercase {s : String} (h : ' ' ∉ s.toList) : ' ' ∉ (lowercase s).toList := by
  rw [lowercase, String.toList_ofList]
  exact space_not_mem_lowerAfter h

theorem space_mem_lowerAfter {before cs : List Char} (h : ' ' ∈ cs) :
    ' ' ∈ lowerAfter before cs := by
  induction cs generalizing before with
  | nil => exact h
  | cons c cs ih =>
    rw [lowerAfter, List.mem_append]
    obtain rfl | hcs := List.mem_cons.mp h
    · rw [if_neg (by decide)]
      exact .inl (by decide)
    · exact .inr (ih hcs)

theorem space_mem_lowercase_iff {s : String} : ' ' ∈ (lowercase s).toList ↔ ' ' ∈ s.toList := by
  refine ⟨fun h ↦ by_contra fun hnone ↦ space_not_mem_lowercase hnone h, fun h ↦ ?_⟩
  rw [lowercase, String.toList_ofList]
  exact space_mem_lowerAfter h

end WorkflowSearch.Text
