import Mathlib.Data.List.DropRight
import Mathlib.Tactic.Common
import WorkflowSearch.Text.Blank

namespace WorkflowSearch.Text

theorem dropWhile_of_prefix {p : Char → Bool} {cs ds : List Char} (h : ds <+: cs.dropWhile p) :
    ds.dropWhile p = ds := by
  rw [List.dropWhile_eq_self_iff]
  intro hlength
  have hself : (cs.dropWhile p).dropWhile p = cs.dropWhile p := List.dropWhile_idempotent p cs
  rw [List.dropWhile_eq_self_iff] at hself
  have hfirst := hself (hlength.trans_le h.length_le)
  rwa [← h.getElem hlength] at hfirst

@[simp]
theorem trimChars_trimChars (cs : List Char) : trimChars (trimChars cs) = trimChars cs := by
  have hstart : (trimChars cs).dropWhile isBlank = trimChars cs :=
    dropWhile_of_prefix (List.rdropWhile_prefix isBlank (cs.dropWhile isBlank))
  have hend : (trimChars cs).rdropWhile isBlank = trimChars cs :=
    List.rdropWhile_idempotent isBlank (cs.dropWhile isBlank)
  calc trimChars (trimChars cs)
      = ((trimChars cs).dropWhile isBlank).rdropWhile isBlank := rfl
    _ = trimChars cs := by rw [hstart, hend]

theorem trimChars_infix (cs : List Char) : trimChars cs <:+: cs :=
  (List.rdropWhile_prefix isBlank _).isInfix.trans (List.dropWhile_suffix isBlank).isInfix

theorem isBlank_eq_false {c : Char} (h : 0x20 < c.toNat) (h' : c.toNat < 0x85) :
    isBlank c = false := by
  have hspace : ¬ c.toNat < 0x20 := by omega
  have hquad : c.toNat < 0x2000 := by omega
  simp [isBlank, CodeRanges.contains, bisect, blankRanges, rangeSide, h, h', hspace, hquad]

theorem exists_trimChars_cons {c : Char} (hc : isBlank c = false) (cs : List Char) :
    ∃ rest, trimChars (c :: cs) = c :: rest := by
  have hstart : (c :: cs).dropWhile isBlank = c :: cs := List.dropWhile_cons_of_neg (by simp [hc])
  have hprefix : trimChars (c :: cs) <+: c :: cs := by
    rw [trimChars, hstart]
    exact List.rdropWhile_prefix isBlank (c :: cs)
  have hsome : trimChars (c :: cs) ≠ [] := by
    rw [trimChars, hstart]
    intro hnil
    have hblank := List.rdropWhile_eq_nil_iff.mp hnil c List.mem_cons_self
    rw [hc] at hblank
    cases hblank
  obtain ⟨first, rest, hcons⟩ := List.exists_cons_of_ne_nil hsome
  rw [hcons, List.cons_prefix_cons] at hprefix
  exact ⟨rest, hprefix.1 ▸ hcons⟩

theorem not_isBlank_getLast {cs : List Char} (htrimmed : trimChars cs = cs) {c : Char}
    (hlast : cs.getLast? = some c) : isBlank c = false := by
  have hend : cs.rdropWhile isBlank = cs := by
    rw [← htrimmed]
    exact List.rdropWhile_idempotent isBlank (cs.dropWhile isBlank)
  rw [List.rdropWhile_eq_self_iff] at hend
  obtain ⟨front, rfl⟩ := List.getLast?_eq_some_iff.mp hlast
  simpa using hend (by simp)

end WorkflowSearch.Text
