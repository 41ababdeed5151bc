import WorkflowSearch.Proofs.Scalar.Order

namespace WorkflowSearch

namespace Scalar

variable {α : Type} [Scalar α]

theorem min_isNumber (a : α) {b : α} (hb : b ≤ b) : Scalar.min a b ≤ Scalar.min a b := by
  unfold Scalar.min
  split
  · next ha =>
    split
    · exact hb
    · exact ha
  · exact hb

theorem clamp_isNumber {lo hi a : α} (hlo : lo ≤ lo) (hhi : hi ≤ hi) (ha : a ≤ a) :
    clamp lo hi a ≤ clamp lo hi a := by
  unfold clamp
  split
  · exact hlo
  · split
    · exact hhi
    · exact ha

theorem clamp_mem [OrderedScalar α] {lo hi a : α} (h : lo ≤ hi) (ha : a ≤ a) :
    lo ≤ clamp lo hi a ∧ clamp lo hi a ≤ hi := by
  obtain ⟨hlo, hhi⟩ := OrderedScalar.isNumber_of_le h
  unfold clamp
  split
  · exact ⟨hlo, h⟩
  · next hlow =>
    split
    · exact ⟨h, hhi⟩
    · next hhigh => exact ⟨le_of_not_lt ha hlo hlow, le_of_not_lt hhi ha hhigh⟩

end Scalar

namespace Double

open Float.Model Float.Model.UnpackedFloat

theorem isNaN_ite {p : Prop} [Decidable p] {u v : UnpackedFloat} (hu : p → u.isNaN = false)
    (hv : ¬ p → v.isNaN = false) : (if p then u else v).isNaN = false := by
  by_cases h : p
  · rw [if_pos h, hu h]
  · rw [if_neg h, hv h]

theorem isNaN_dite {p : Prop} [Decidable p] {u : p → UnpackedFloat} {v : ¬ p → UnpackedFloat}
    (hu : ∀ h, (u h).isNaN = false) (hv : ∀ h, (v h).isNaN = false) :
    (if h : p then u h else v h).isNaN = false := by
  by_cases h : p
  · rw [dif_pos h, hu h]
  · rw [dif_neg h, hv h]

theorem isNaN_unpack_packComponents {format : Format} {sign : Sign}
    {exponent : BitVec format.exponentBits}
    {mantissa : BitVec format.mantissaBitsWithoutImplicit}
    (h : exponent = -BitVec.ofNat _ 1 → mantissa = BitVec.ofNat _ 0) :
    (UnpackedFloat.unpack format (packComponents format sign exponent mantissa)).isNaN =
      false := by
  have hexponent : unpackExponent (packComponents format sign exponent mantissa) = exponent :=
    unpackExponent_packComponents
  have hmantissa : unpackMantissa (packComponents format sign exponent mantissa) = mantissa :=
    unpackMantissa_packComponents
  -- The exponent of ones is used for infinities only.
  refine isNaN_ite (fun hones ↦ isNaN_ite (fun _ ↦ rfl) fun hsome ↦ ?_) fun _ ↦ ?_
  · exact absurd (hmantissa.trans (h (hexponent.symm.trans hones))) hsome
  · exact isNaN_ite (fun _ ↦ isNaN_dite (fun _ ↦ rfl) fun _ ↦ rfl) fun _ ↦ rfl

theorem isNaN_unpack_pack {u : UnpackedFloat} (h : u.isNaN = false) :
    (Float.Model.pack u).unpack.isNaN = false := by
  change (UnpackedFloat.unpack Format.binary64 (UnpackedFloat.pack Format.binary64 u)).isNaN = false
  cases u with
  | notANumber => cases h
  | infinity => exact isNaN_unpack_packComponents fun _ ↦ rfl
  | zero => exact isNaN_unpack_packComponents fun _ ↦ rfl
  | finite sign mantissa exponent =>
    unfold UnpackedFloat.pack
    dsimp only
    split
    · exact isNaN_unpack_packComponents fun _ ↦ rfl
    · next hsmall =>
      split
      · refine isNaN_unpack_packComponents fun hones ↦ ?_
        have hmax := congrArg BitVec.toNat hones
        have hall : (-BitVec.ofNat Format.binary64.exponentBits 1).toNat = 2 ^ 11 - 1 := by decide
        rw [BitVec.toNat_ofNat, hall, Nat.mod_eq_of_lt (by omega)] at hmax
        omega
      · exact isNaN_unpack_packComponents fun hones ↦ absurd hones (by decide)

theorem isNaN_round (format : Format) (sign : Sign) (mantissa : ℕ) (exponent : ℤ) :
    (UnpackedFloat.round format sign mantissa exponent).isNaN = false := by
  unfold UnpackedFloat.round roundWithAccuracy
  exact isNaN_dite (fun _ ↦ rfl) fun _ ↦ rfl

theorem isNaN_normalize (format : Format) (mantissa exponent : ℤ) (sign : Sign) :
    (UnpackedFloat.normalize format mantissa exponent sign).isNaN = false := by
  unfold UnpackedFloat.normalize
  split
  · exact isNaN_round format _ _ _
  · rfl
  · exact isNaN_round format _ _ _

theorem isNaN_unpacked_sub (format : Format) {u v : UnpackedFloat} (hu : u.isFinite = true)
    (hv : v.isNaN = false) : (UnpackedFloat.sub format u v).isNaN = false := by
  cases u with
  | notANumber | infinity => cases hu
  | zero =>
    cases v with
    | notANumber => cases hv
    | infinity | finite => rfl
    | zero => exact isNaN_ite (fun _ ↦ rfl) fun _ ↦ rfl
  | finite =>
    cases v with
    | notANumber => cases hv
    | infinity | zero => rfl
    | finite => exact isNaN_normalize format _ _ _

theorem exists_orderPlace?_iff (u : UnpackedFloat) :
    (∃ place, orderPlace? u = some place) ↔ u.isNaN = false := by
  cases u with
  | notANumber =>
    refine ⟨?_, ?_⟩
    · rintro ⟨place, hplace⟩
      cases hplace
    · intro hnumber
      cases hnumber
  | zero => exact ⟨fun _ ↦ rfl, fun _ ↦ ⟨_, rfl⟩⟩
  | infinity sign => cases sign <;> exact ⟨fun _ ↦ rfl, fun _ ↦ ⟨_, rfl⟩⟩
  | finite sign => cases sign <;> exact ⟨fun _ ↦ rfl, fun _ ↦ ⟨_, rfl⟩⟩

theorem isNumber_iff (a : Double) : a ≤ a ↔ a.isNaN = false := by
  rw [le_iff]
  refine Iff.trans ⟨?_, ?_⟩ (exists_orderPlace?_iff a.value.toModel.unpack)
  · rintro ⟨place, -, hplace, -, -⟩
    exact ⟨place, hplace⟩
  · rintro ⟨place, hplace⟩
    exact ⟨place, place, hplace, hplace, le_rfl⟩

theorem binary_of_isNaN_eq_false {op : Float → Float → Float} {a b : Double}
    (ha : a.isNaN = false) (hb : b.isNaN = false) :
    binary op a b = ofResult (op a.value b.value) := by
  rw [binary, ha, hb]
  rfl

theorem isNumber_of_isFinite {a : Double} (h : a.isFinite = true) : a ≤ a := by
  rw [isNumber_iff]
  have hfinite : a.value.toModel.unpack.isFinite = true := h
  change a.value.toModel.unpack.isNaN = false
  cases hvalue : a.value.toModel.unpack with
  | notANumber =>
    rw [hvalue] at hfinite
    cases hfinite
  | infinity | zero | finite => rfl

theorem sub_isNumber {a b : Double} (ha : a.isFinite = true) (hb : b ≤ b) : a - b ≤ a - b := by
  have hfinite : a.value.toModel.unpack.isFinite = true := ha
  have hnumber : a.isNaN = false := (isNumber_iff a).mp (isNumber_of_isFinite ha)
  have hb := (isNumber_iff b).mp hb
  have hsub : a - b = ofResult (a.value - b.value) := binary_of_isNaN_eq_false hnumber hb
  rw [hsub, isNumber_iff]
  exact isNaN_unpack_pack (isNaN_unpacked_sub Format.binary64 hfinite hb)

end Double

end WorkflowSearch
