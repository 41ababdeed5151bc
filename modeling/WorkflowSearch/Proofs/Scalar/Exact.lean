import Mathlib.Algebra.BigOperators.Group.List.Basic
import Mathlib.Algebra.Order.Field.Basic
import Mathlib.Data.Rat.Floor
import Mathlib.Data.Rat.Sqrt
import Mathlib.Tactic.Linarith
import WorkflowSearch.Scalar.Basic

namespace WorkflowSearch

/-- An ordered field with the operations of a scalar. Roots, logarithms and texts are left open. -/
class ExactScalar (α : Type) extends Scalar α, Field α, LinearOrder α, IsStrictOrderedRing α where
  isFinite_eq (a : α) : Scalar.isFinite a = true
  order_eq (a b : α) : Scalar.order a b = compare a b
  ofScientific_eq (mantissa : ℕ) (negative : Bool) (exponent : ℕ) :
    (OfScientific.ofScientific mantissa negative exponent : α) =
      ((OfScientific.ofScientific mantissa negative exponent : ℚ) : α)
  le_floorNat_iff (a : α) (n : ℕ) :
    n ≤ Scalar.floorNat a ↔ n = 0 ∨ n < UInt64.size ∧ (n : α) ≤ a
  le_roundNat_iff (a : α) (n : ℕ) :
    n ≤ Scalar.roundNat a ↔ n = 0 ∨ n < UInt64.size ∧ (n : α) ≤ a + 1 / 2

theorem clamp_of_not_lt {α : Type} [Scalar α] {lo hi a : α} (h : ¬ a < lo) (h' : ¬ hi < a) :
    Scalar.clamp lo hi a = a := by
  rw [Scalar.clamp, if_neg h, if_neg h']

namespace ExactScalar

variable {α : Type} [ExactScalar α] {a : α} {n : ℕ}

theorem sum_eq_sum (l : List α) : Scalar.sum l = l.sum :=
  List.sum_eq_foldl.symm

theorem isPositive_iff : Scalar.isPositive a = true ↔ 0 < a := by
  simp [Scalar.isPositive, isFinite_eq]

theorem isNonNegative_iff : Scalar.isNonNegative a = true ↔ 0 ≤ a := by
  simp [Scalar.isNonNegative, isFinite_eq]

theorem max_of_le {b : α} (h : b ≤ a) : Scalar.max a b = a := by
  rw [Scalar.max, if_pos le_rfl, if_neg h.not_gt]

theorem min_eq_min (a b : α) : Scalar.min a b = min a b := by
  unfold Scalar.min
  rw [if_pos le_rfl]
  split
  · next h => exact (min_eq_right h.le).symm
  · next h => exact (min_eq_left (not_lt.mp h)).symm

theorem clamp_bounds (a : α) : 0 ≤ Scalar.clamp 0 1 a ∧ Scalar.clamp 0 1 a ≤ 1 := by
  unfold Scalar.clamp
  split
  · exact ⟨le_rfl, zero_le_one⟩
  · next hlow =>
    split
    · exact ⟨zero_le_one, le_rfl⟩
    · next hhigh => exact ⟨not_lt.mp hlow, not_lt.mp hhigh⟩

theorem powAcc_eq (acc a : α) (n : ℕ) : Scalar.powAcc acc a n = acc * a ^ n := by
  induction n using Nat.strongRecOn generalizing acc a with
  | ind n ih =>
    rw [Scalar.powAcc]
    split
    · next hlast =>
      obtain rfl | rfl : n = 0 ∨ n = 1 := by omega
      · simp
      · simp
    · next hmore =>
      rw [ih (n / 2) (by omega), ← pow_two, ← pow_mul]
      split
      · next hodd =>
        have hsplit : 2 * (n / 2) + 1 = n := by omega
        rw [mul_assoc, ← pow_succ', hsplit]
      · next heven =>
        have hhalf : 2 * (n / 2) = n := by omega
        rw [hhalf]

theorem pow_natCast (a : α) (n : ℕ) : Scalar.pow a n = a ^ n := by
  simp [Scalar.pow, powAcc_eq]

theorem floorNat_natCast (n : ℕ) : Scalar.floorNat (n : α) = min n (UInt64.size - 1) := by
  refine eq_of_forall_le_iff fun k ↦ ?_
  have hsize : 0 < UInt64.size := by decide
  rw [le_floorNat_iff, Nat.cast_le]
  omega

theorem roundNat_le_add_half (h : 0 ≤ a) : (Scalar.roundNat a : α) ≤ a + 1 / 2 := by
  obtain hzero | ⟨-, hle⟩ := (le_roundNat_iff a (Scalar.roundNat a)).mp le_rfl
  · rw [hzero, Nat.cast_zero]
    exact add_nonneg h one_half_pos.le
  · exact hle

theorem roundNat_le_of_lt (h : a < n + 1 / 2) : Scalar.roundNat a ≤ n := by
  by_contra! hlt
  obtain hzero | ⟨-, hle⟩ := (le_roundNat_iff a (n + 1)).mp hlt
  · exact absurd hzero n.succ_ne_zero
  · rw [Nat.cast_succ] at hle
    linarith [one_half_pos (α := α)]

end ExactScalar

/-- The first terms of a series for the logarithm of a positive number, exact at one. -/
def rationalLog (a : ℚ) : ℚ :=
  let t := (a - 1) / (a + 1)
  2 * (t + t ^ 3 / 3 + t ^ 5 / 5)

def rationalFloor (a : ℚ) : ℕ :=
  min a.floor.toNat (UInt64.size - 1)

theorem le_rationalFloor_iff (a : ℚ) (n : ℕ) :
    n ≤ rationalFloor a ↔ n = 0 ∨ n < UInt64.size ∧ (n : ℚ) ≤ a := by
  have hfloor : (n : ℤ) ≤ a.floor ↔ (n : ℚ) ≤ a := by
    rw [Rat.le_floor_iff, Int.cast_natCast]
  have hsize : 0 < UInt64.size := by decide
  rw [← hfloor, rationalFloor]
  omega

instance : Scalar ℚ where
  decidableLT := inferInstance
  decidableLE := inferInstance
  order := compare
  isFinite _ := true
  sqrt := Rat.sqrt
  ln := rationalLog
  floorNat := rationalFloor
  roundNat a := rationalFloor (a + 1 / 2)
  text := toString
  text2 a := toString ((rationalFloor (100 * a) : ℚ) / 100)

instance : ExactScalar ℚ where
  __ := (inferInstance : Scalar ℚ)
  __ := (inferInstance : Field ℚ)
  __ := (inferInstance : LinearOrder ℚ)
  __ := (inferInstance : IsStrictOrderedRing ℚ)
  isFinite_eq _ := rfl
  order_eq _ _ := rfl
  ofScientific_eq _ _ _ := (Rat.cast_id _).symm
  le_floorNat_iff := le_rationalFloor_iff
  le_roundNat_iff a := le_rationalFloor_iff (a + 1 / 2)

end WorkflowSearch
