import Mathlib.Analysis.SpecialFunctions.Log.Basic
import WorkflowSearch.Proofs.Scalar.Exact

namespace WorkflowSearch

/-- Exact scalars in which numbers that are not negative have a root. -/
class RootedScalar (α : Type) extends ExactScalar α where
  sqrt_nonneg (a : α) : 0 ≤ Scalar.sqrt a
  sqrt_mul_self {a : α} (h : 0 ≤ a) : Scalar.sqrt a * Scalar.sqrt a = a

namespace RootedScalar

variable {α : Type} [RootedScalar α] {a b : α}

theorem sqrt_eq_zero_iff (h : 0 ≤ a) : Scalar.sqrt a = 0 ↔ a = 0 := by
  constructor
  · intro hzero
    rw [← sqrt_mul_self h, hzero, mul_zero]
  · rintro rfl
    exact mul_self_eq_zero.mp (sqrt_mul_self le_rfl)

theorem sqrt_le_of_le_mul_self (ha : 0 ≤ a) (hb : 0 ≤ b) (h : a ≤ b * b) : Scalar.sqrt a ≤ b :=
  (mul_self_le_mul_self_iff (sqrt_nonneg a) hb).mpr ((sqrt_mul_self ha).trans_le h)

end RootedScalar

noncomputable def realFloor (a : ℝ) : ℕ :=
  min ⌊a⌋₊ (UInt64.size - 1)

theorem le_realFloor_iff (a : ℝ) (n : ℕ) :
    n ≤ realFloor a ↔ n = 0 ∨ n < UInt64.size ∧ (n : ℝ) ≤ a := by
  have hsize : 0 < UInt64.size := by decide
  obtain rfl | hn := Nat.eq_zero_or_pos n
  · simp
  · rw [realFloor, le_min_iff, Nat.le_floor_iff' hn.ne', Nat.le_sub_one_iff_lt hsize, and_comm,
      or_iff_right hn.ne']

noncomputable def realText (a : ℝ) : String :=
  toString ((realFloor (100 * a) : ℚ) / 100)

noncomputable instance : Scalar ℝ where
  decidableLT := inferInstance
  decidableLE := inferInstance
  order := compare
  isFinite _ := true
  sqrt := Real.sqrt
  ln := Real.log
  floorNat := realFloor
  roundNat a := realFloor (a + 1 / 2)
  text := realText
  text2 := realText

noncomputable instance : ExactScalar ℝ where
  __ := (inferInstance : Scalar ℝ)
  __ := (inferInstance : Field ℝ)
  __ := (inferInstance : LinearOrder ℝ)
  __ := (inferInstance : IsStrictOrderedRing ℝ)
  isFinite_eq _ := rfl
  order_eq _ _ := rfl
  ofScientific_eq m s e := (Rat.cast_ofScientific (K := ℝ) m s e).symm
  le_floorNat_iff := le_realFloor_iff
  le_roundNat_iff a := le_realFloor_iff (a + 1 / 2)

noncomputable instance : RootedScalar ℝ where
  sqrt_nonneg := Real.sqrt_nonneg
  sqrt_mul_self := Real.mul_self_sqrt

end WorkflowSearch
