import Mathlib.Data.Prod.Lex
import Mathlib.Order.Compare
import WorkflowSearch.Proofs.Lists
import WorkflowSearch.Proofs.Scalar.Exact
import WorkflowSearch.Scalar.Double

namespace WorkflowSearch

/-- The numbers of a type of scalars are totally ordered. -/
class OrderedScalar (α : Type) [Scalar α] : Prop where
  isNumber_of_le {a b : α} : a ≤ b → a ≤ a ∧ b ≤ b
  le_trans {a b c : α} : a ≤ b → b ≤ c → a ≤ c
  le_total {a b : α} : a ≤ a → b ≤ b → a ≤ b ∨ b ≤ a
  lt_iff {a b : α} : a < b ↔ a ≤ b ∧ ¬ b ≤ a

/-- All values have their place in the total order, also those that are not numbers. -/
class TotalScalar (α : Type) [Scalar α] : Prop where
  transCmp : Std.TransCmp (Scalar.order : α → α → Ordering)

attribute [instance] TotalScalar.transCmp

instance {α : Type} [ExactScalar α] : TotalScalar α where
  transCmp := by
    have horder : (Scalar.order : α → α → Ordering) = compare := by
      funext a b
      exact ExactScalar.order_eq a b
    rw [horder]
    infer_instance

instance : TotalScalar Double where
  transCmp := inferInstanceAs (Std.TransCmp (compareOn Double.orderKey))

instance {α : Type} [ExactScalar α] : OrderedScalar α where
  isNumber_of_le _ := ⟨le_rfl, le_rfl⟩
  le_trans := le_trans
  le_total _ _ := le_total _ _
  lt_iff := lt_iff_le_not_ge

namespace Double

open Float.Model

/-- The place of a value in the order: the sign first, and of finite values other than zero then the
exponent and the mantissa. -/
def orderPlace? : UnpackedFloat → Option (ℤ ×ₗ ℤ ×ₗ ℤ)
  | .notANumber => none
  | .infinity .negative => some (toLex (-2, toLex (0, 0)))
  | .finite .negative mantissa exponent _ => some (toLex (-1, toLex (-exponent, -mantissa)))
  | .zero _ => some (toLex (0, toLex (0, 0)))
  | .finite .positive mantissa exponent _ => some (toLex (1, toLex (exponent, mantissa)))
  | .infinity .positive => some (toLex (2, toLex (0, 0)))

theorem compare_toLex {β γ : Type} [Ord β] [Ord γ] (a b : β) (c d : γ) :
    compare (toLex (a, c)) (toLex (b, d)) = (compare a b).then (compare c d) := by
  rw [Prod.Lex.compare_def]
  rfl

theorem compare_neg_neg (a b : ℤ) : compare (-a) (-b) = (compare a b).swap := by
  have hanti : StrictAnti fun n : ℤ ↦ -n := fun _ _ h ↦ neg_lt_neg h
  rw [← cmp_eq_compare, ← cmp_eq_compare, cmp_swap]
  exact hanti.cmp_map_eq a b

theorem compare_natCast (m n : ℕ) : compare (m : ℤ) (n : ℤ) = compare m n := by
  rw [← cmp_eq_compare, ← cmp_eq_compare]
  exact Nat.strictMono_cast.cmp_map_eq m n

theorem compare_eq (a b : UnpackedFloat) :
    a.compare b = (orderPlace? a).bind fun p ↦ (orderPlace? b).map fun q ↦ compare p q := by
  cases a with
  | notANumber => rfl
  | infinity s =>
    cases b with
    | notANumber => cases s <;> rfl
    | infinity t => cases s <;> cases t <;> rfl
    | zero t => cases s <;> rfl
    | finite t => cases s <;> cases t <;> rfl
  | zero s =>
    cases b with
    | notANumber => rfl
    | infinity t => cases t <;> rfl
    | zero t => rfl
    | finite t => cases t <;> rfl
  | finite s m e =>
    cases b with
    | notANumber => cases s <;> rfl
    | infinity t => cases s <;> cases t <;> rfl
    | zero t => cases s <;> rfl
    | finite t n f =>
      cases s <;> cases t
      · change some ((compare e f).then (compare m n)).swap =
          some (compare (toLex (-1, toLex (-e, -(m : ℤ)))) (toLex ((-1 : ℤ), toLex (-f, -(n : ℤ)))))
        rw [compare_toLex, compare_toLex, compare_neg_neg, compare_neg_neg, compare_neg_neg,
          compare_natCast, Ordering.swap_then]
        rfl
      · rfl
      · rfl
      · change some ((compare e f).then (compare m n)) =
          some (compare (toLex (1, toLex (e, (m : ℤ)))) (toLex ((1 : ℤ), toLex (f, (n : ℤ)))))
        rw [compare_toLex, compare_toLex, compare_natCast]
        rfl

theorem le_iff (a b : Double) :
    a ≤ b ↔ ∃ p q, orderPlace? a.value.toModel.unpack = some p ∧
      orderPlace? b.value.toModel.unpack = some q ∧ p ≤ q := by
  have hle : a ≤ b ↔
      (a.value.toModel.unpack.compare b.value.toModel.unpack).any (·.isLE) = true :=
    decide_eq_true_iff
  rw [hle, compare_eq]
  cases orderPlace? a.value.toModel.unpack with
  | none => simp
  | some p =>
    cases orderPlace? b.value.toModel.unpack with
    | none => simp
    | some q =>
      have hpq : (compare p q).isLE = true ↔ p ≤ q :=
        Ordering.isLE_iff_ne_gt.trans compare_le_iff_le
      simpa using hpq

theorem lt_iff (a b : Double) :
    a < b ↔ ∃ p q, orderPlace? a.value.toModel.unpack = some p ∧
      orderPlace? b.value.toModel.unpack = some q ∧ p < q := by
  have hlt : a < b ↔
      (a.value.toModel.unpack.compare b.value.toModel.unpack == some .lt) = true :=
    decide_eq_true_iff
  rw [hlt, compare_eq]
  cases orderPlace? a.value.toModel.unpack with
  | none => simp
  | some p =>
    cases orderPlace? b.value.toModel.unpack with
    | none => simp
    | some q =>
      have hpq : compare p q = .lt ↔ p < q := compare_lt_iff_lt
      simpa using hpq

end Double

instance : OrderedScalar Double where
  isNumber_of_le {a b} h := by
    simp only [Double.le_iff] at h ⊢
    obtain ⟨p, q, hp, hq, -⟩ := h
    exact ⟨⟨p, p, hp, hp, le_rfl⟩, q, q, hq, hq, le_rfl⟩
  le_trans {a b c} hab hbc := by
    simp only [Double.le_iff] at hab hbc ⊢
    obtain ⟨p, q, hp, hq, hpq⟩ := hab
    obtain ⟨q', r, hq', hr, hqr⟩ := hbc
    obtain rfl := Option.some.inj (hq.symm.trans hq')
    exact ⟨p, r, hp, hr, hpq.trans hqr⟩
  le_total {a b} ha hb := by
    simp only [Double.le_iff] at ha hb ⊢
    obtain ⟨p, -, hp, -⟩ := ha
    obtain ⟨q, -, hq, -⟩ := hb
    exact (le_total p q).imp (fun hpq ↦ ⟨p, q, hp, hq, hpq⟩) fun hqp ↦ ⟨q, p, hq, hp, hqp⟩
  lt_iff {a b} := by
    simp only [Double.le_iff, Double.lt_iff]
    constructor
    · rintro ⟨p, q, hp, hq, hpq⟩
      refine ⟨⟨p, q, hp, hq, hpq.le⟩, ?_⟩
      rintro ⟨q', p', hq', hp', hqp⟩
      obtain rfl := Option.some.inj (hp.symm.trans hp')
      obtain rfl := Option.some.inj (hq.symm.trans hq')
      exact absurd hpq (not_lt.mpr hqp)
    · rintro ⟨⟨p, q, hp, hq, -⟩, hnot⟩
      exact ⟨p, q, hp, hq, not_le.mp fun hqp ↦ hnot ⟨q, p, hq, hp, hqp⟩⟩

namespace Scalar

variable {α : Type} [Scalar α]

theorem max_eq_or_eq (a b : α) : Scalar.max a b = a ∨ Scalar.max a b = b := by
  unfold Scalar.max
  split
  · exact (ite_eq_or_eq (a < b) b a).symm
  · exact .inr rfl

variable [OrderedScalar α]

theorem lt_asymm {a b : α} (h : a < b) : ¬ b < a :=
  fun h' ↦ (OrderedScalar.lt_iff.mp h).2 (OrderedScalar.lt_iff.mp h').1

theorem le_of_not_lt {a b : α} (ha : a ≤ a) (hb : b ≤ b) (h : ¬ a < b) : b ≤ a := by
  by_contra hnot
  have hab := (OrderedScalar.le_total ha hb).resolve_right hnot
  exact h (OrderedScalar.lt_iff.mpr ⟨hab, hnot⟩)

theorem lt_or_lt_of_lt {a b c : α} (hc : c ≤ c) (h : a < b) : a < c ∨ c < b := by
  obtain ⟨hab, hnot⟩ := OrderedScalar.lt_iff.mp h
  obtain ⟨ha, -⟩ := OrderedScalar.isNumber_of_le hab
  by_cases hca : c ≤ a
  · refine .inr (OrderedScalar.lt_iff.mpr ⟨OrderedScalar.le_trans hca hab, fun hbc ↦ ?_⟩)
    exact hnot (OrderedScalar.le_trans hbc hca)
  · have hac := (OrderedScalar.le_total ha hc).resolve_right hca
    exact .inl (OrderedScalar.lt_iff.mpr ⟨hac, hca⟩)

theorem le_max_left {a : α} (ha : a ≤ a) (b : α) : a ≤ Scalar.max a b := by
  rw [Scalar.max, if_pos ha]
  split
  · next hlt => exact (OrderedScalar.lt_iff.mp hlt).1
  · exact ha

theorem le_max_right (a : α) {b : α} (hb : b ≤ b) : b ≤ Scalar.max a b := by
  unfold Scalar.max
  split
  · next ha =>
    split
    · exact hb
    · next hlt => exact le_of_not_lt ha hb hlt
  · exact hb

theorem le_foldl_max {first : α} {rest : List α} {a : α} (hmem : a ∈ first :: rest) (ha : a ≤ a) :
    a ≤ rest.foldl Scalar.max first := by
  induction rest generalizing first a with
  | nil =>
    obtain rfl := List.mem_singleton.mp hmem
    exact ha
  | cons next rest ih =>
    rw [List.foldl_cons]
    have hstart {b : α} (hb : b ≤ Scalar.max first next) (hmax : b ≤ b) :
        b ≤ rest.foldl Scalar.max (Scalar.max first next) :=
      OrderedScalar.le_trans hb (ih List.mem_cons_self (OrderedScalar.isNumber_of_le hb).2)
    obtain rfl | hmem := List.mem_cons.mp hmem
    · exact hstart (le_max_left ha next) ha
    · obtain rfl | hmem := List.mem_cons.mp hmem
      · exact hstart (le_max_right first ha) ha
      · exact ih (List.mem_cons_of_mem _ hmem) ha

end Scalar

end WorkflowSearch
