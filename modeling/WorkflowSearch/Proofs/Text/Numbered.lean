import Mathlib.Data.Nat.Notation
import Mathlib.Logic.Function.Basic
import WorkflowSearch.Text.Numbered

namespace WorkflowSearch.Text

theorem ofDigitChars_padded (width n : ℕ) : Nat.ofDigitChars 10 (padded width n).toList 0 = n := by
  rw [padded, String.toList_append, String.toList_ofList, Nat.ofDigitChars_append,
    Nat.ofDigitChars_replicate_zero, Nat.mul_zero, Nat.toString_eq_ofList_toDigits,
    String.toList_ofList, Nat.ofDigitChars_ten_toDigits]

theorem padded_injective (width : ℕ) : Function.Injective (padded width) := by
  intro m n h
  rw [← ofDigitChars_padded width m, h, ofDigitChars_padded]

theorem numbered_injective (stem : String) : Function.Injective (numbered stem) := by
  intro m n h
  have hchars := congrArg String.toList h
  rw [numbered, numbered, String.toList_append, String.toList_append] at hchars
  exact padded_injective 4 (String.toList_inj.mp (List.append_cancel_left hchars))

end WorkflowSearch.Text
