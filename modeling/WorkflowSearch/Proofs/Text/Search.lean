import Mathlib.Data.List.Infix
import Mathlib.Tactic.Common
import WorkflowSearch.Text.Search

namespace WorkflowSearch.Text

variable {needle cs found : List Char}

theorem prefix_of_findFrom? (h : findFrom? needle cs = some found) : needle <+: found := by
  induction cs with
  | nil =>
    rw [findFrom?, ite_eq_iff] at h
    obtain ⟨hempty, hfound⟩ | ⟨-, hfound⟩ := h
    · rw [List.isEmpty_iff.mp hempty]
      exact List.nil_prefix
    · cases hfound
  | cons c cs ih =>
    rw [findFrom?] at h
    split at h
    · next hbegins =>
      obtain rfl := Option.some.inj h
      exact List.isPrefixOf_iff_prefix.mp hbegins
    · exact ih h

theorem suffix_of_findFrom? (h : findFrom? needle cs = some found) : found <:+ cs := by
  induction cs with
  | nil =>
    rw [findFrom?, ite_eq_iff] at h
    obtain ⟨-, hfound⟩ | ⟨-, hfound⟩ := h
    · exact Option.some.inj hfound ▸ List.suffix_rfl
    · cases hfound
  | cons c cs ih =>
    rw [findFrom?] at h
    split at h
    · exact Option.some.inj h ▸ List.suffix_rfl
    · exact (ih h).trans (List.suffix_cons c cs)

theorem findFrom?_eq_none_iff : findFrom? needle cs = none ↔ ¬ needle <:+: cs := by
  induction cs with
  | nil => simp [findFrom?]
  | cons c cs ih =>
    rw [findFrom?, List.infix_cons_iff]
    by_cases hbegins : needle <+: c :: cs
    · simp [hbegins]
    · rw [if_neg (by rwa [List.isPrefixOf_iff_prefix]), ih]
      simp [hbegins]

theorem contains_iff_infix {text needle : String} :
    contains text needle = true ↔ needle.toList <:+: text.toList := by
  rw [contains, Option.isSome_iff_ne_none, Ne, findFrom?_eq_none_iff, not_not]

theorem exists_before_of_findFrom? (h : findFrom? needle cs = some found) :
    ∃ before, cs = before ++ found ∧ ∀ n < before.length, ¬ needle <+: cs.drop n := by
  induction cs with
  | nil => exact ⟨[], (List.suffix_nil.mp (suffix_of_findFrom? h)).symm, by simp⟩
  | cons c cs ih =>
    rw [findFrom?] at h
    split at h
    · exact ⟨[], Option.some.inj h, by simp⟩
    · next hbegins =>
      obtain ⟨before, hbefore, hfirst⟩ := ih h
      refine ⟨c :: before, by rw [hbefore, List.cons_append], fun n hn ↦ ?_⟩
      cases n with
      | zero => rwa [List.drop_zero, ← List.isPrefixOf_iff_prefix]
      | succ n => exact hfirst n (Nat.lt_of_succ_lt_succ hn)

theorem not_infix_of_findFrom?_append (hneedle : needle ≠ []) {before : List Char}
    (h : findFrom? needle (before ++ found) = some found) : ¬ needle <:+: before := by
  induction before with
  | nil => simpa using hneedle
  | cons c before ih =>
    rw [List.cons_append, findFrom?] at h
    split at h
    · -- The whole text would be the first occurrence, and it is longer than `found`.
      have hlength := congrArg List.length (Option.some.inj h)
      simp only [List.length_cons, List.length_append] at hlength
      omega
    · next hbegins =>
      rw [List.infix_cons_iff, not_or]
      refine ⟨fun hc ↦ hbegins ?_, ih h⟩
      exact List.isPrefixOf_iff_prefix.mpr (hc.trans (List.prefix_append (c :: before) found))

end WorkflowSearch.Text
