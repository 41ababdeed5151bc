import WorkflowSearch.Proofs.Scalar.Numbers

namespace WorkflowSearch

/-- Scalars of which sums of positive ones are positive. -/
class PositiveScalar (α : Type) [Scalar α] : Prop extends OrderedScalar α where
  zero_add_pos {a : α} : 0 < a → 0 < 0 + a
  add_pos {a b : α} : 0 < a → 0 < b → 0 < a + b

instance {α : Type} [ExactScalar α] : PositiveScalar α where
  zero_add_pos {a} h := by rwa [zero_add]
  add_pos := add_pos

namespace Double

open Float.Model Float.Model.UnpackedFloat

/-- Above zero, with a mantissa and an exponent that packing keeps. -/
inductive IsAboveZero : UnpackedFloat → Prop
  | infinity : IsAboveZero (.infinity .positive)
  | finite {mantissa : ℕ} {exponent : ℤ} {hmantissa : 0 < mantissa} (hbound : mantissa < 2 ^ 53)
    (hexponent : -1074 ≤ exponent) : IsAboveZero (.finite .positive mantissa exponent hmantissa)

theorem IsAboveZero.eq_or_eq {u : UnpackedFloat} (h : IsAboveZero u) :
    u = .infinity .positive ∨
      ∃ mantissa exponent hmantissa, u = .finite .positive mantissa exponent hmantissa := by
  cases h with
  | infinity => exact .inl rfl
  | finite => exact .inr ⟨_, _, _, rfl⟩

theorem mantissa_shiftRight (extended : ExtendedMantissa) (n : ℕ) :
    (extended >>> n).mantissa = extended.mantissa / 2 ^ n := by
  induction n with
  | zero => exact (Nat.div_one _).symm
  | succ n ih =>
    change (extended >>> n).mantissa / 2 = _
    rw [ih, Nat.div_div_eq_div_mul, Nat.pow_succ]

theorem le_roundedMantissa (extended : ExtendedMantissa) :
    extended.mantissa ≤ extended.roundedMantissa := by
  obtain ⟨mantissa, _ | _, _ | _⟩ := extended
  · exact le_rfl
  · exact le_rfl
  · exact Nat.le_add_right _ _
  · exact Nat.le_add_right _ _

theorem binary64_targetExponent (total : ℤ) :
    Format.binary64.targetExponent total = max (total - 53) (-1074) :=
  rfl

theorem mantissa_ofMantissaAndAccuracy (mantissa : ℕ) (accuracy : Accuracy) :
    (ExtendedMantissa.ofMantissaAndAccuracy mantissa accuracy).mantissa = mantissa := by
  obtain _ | _ | _ | _ := accuracy <;> rfl

theorem shiftToTargetExponent_bounds {mantissa : ℕ} {exponent : ℤ} (hmantissa : 0 < mantissa)
    (hexponent : -1074 ≤ exponent) (accuracy : Accuracy) :
    let shifted := shiftToTargetExponent Format.binary64 mantissa exponent accuracy
    0 < shifted.1.mantissa ∧ shifted.1.mantissa < 2 ^ 53 ∧ -1074 ≤ shifted.2 := by
  dsimp only [shiftToTargetExponent, shiftToExponent]
  rw [mantissa_shiftRight, mantissa_ofMantissaAndAccuracy, binary64_targetExponent, totalExponent]
  -- The digits beyond 53 are shifted out, and no others where the exponent is large enough: the
  -- leading digit stays.
  set shift := (max ((mantissa.log2 : ℤ) + 1 + exponent - 53) (-1074) - exponent).toNat with hshift
  have hle : shift ≤ mantissa.log2 := by omega
  have hlt : mantissa.log2 + 1 ≤ shift + 53 := by omega
  have hlow : 2 ^ shift ≤ mantissa :=
    (Nat.pow_le_pow_right two_pos hle).trans (Nat.log2_self_le hmantissa.ne')
  have hhigh : mantissa < 2 ^ shift * 2 ^ 53 := by
    rw [← pow_add]
    exact Nat.lt_log2_self.trans_le (Nat.pow_le_pow_right two_pos hlt)
  exact ⟨Nat.div_pos hlow (Nat.two_pow_pos _), Nat.div_lt_of_lt_mul hhigh, by omega⟩

theorem isAboveZero_roundWithAccuracy {mantissa : ℕ} {exponent : ℤ} (hmantissa : 0 < mantissa)
    (hexponent : -1074 ≤ exponent) (accuracy : Accuracy) :
    IsAboveZero (roundWithAccuracy Format.binary64 .positive mantissa exponent accuracy) := by
  obtain ⟨hshifted, -, hfirst⟩ := shiftToTargetExponent_bounds hmantissa hexponent accuracy
  have hrounded := hshifted.trans_le (le_roundedMantissa _)
  obtain ⟨hpos, hbound, hsecond⟩ := shiftToTargetExponent_bounds hrounded hfirst .exact
  dsimp only [roundWithAccuracy]
  rw [dif_neg hpos.ne']
  exact .finite hbound hsecond

theorem decreaseExponent_pos {mantissa : ℕ} (hmantissa : 0 < mantissa) (exponent target : ℤ) :
    0 < (decreaseExponent mantissa exponent target).1 := by
  dsimp only [decreaseExponent]
  rw [Nat.shiftLeft_eq]
  exact Nat.mul_pos hmantissa (Nat.two_pow_pos _)

theorem isAboveZero_round {mantissa : ℕ} {exponent : ℤ} (hmantissa : 0 < mantissa)
    (hexponent : -1074 ≤ exponent) :
    IsAboveZero (UnpackedFloat.round Format.binary64 .positive mantissa exponent) := by
  dsimp only [UnpackedFloat.round]
  refine isAboveZero_roundWithAccuracy (decreaseExponent_pos hmantissa _ _) ?_ _
  dsimp only [decreaseExponent]
  rw [binary64_targetExponent]
  omega

theorem isAboveZero_normalize {mantissa exponent : ℤ} (hmantissa : 0 < mantissa)
    (hexponent : -1074 ≤ exponent) (sign : Sign) :
    IsAboveZero (UnpackedFloat.normalize Format.binary64 mantissa exponent sign) := by
  have hcompare : compare mantissa 0 = .gt := compare_gt_iff_gt.mpr hmantissa
  rw [UnpackedFloat.normalize, hcompare]
  exact isAboveZero_round (by omega) hexponent

theorem unpackSign_packComponents {sign : Sign} {exponent : BitVec 11} {mantissa : BitVec 52} :
    unpackSign (packComponents Format.binary64 sign exponent mantissa) = sign.toBitVec := by
  change (sign.toBitVec ++ exponent ++ mantissa).extractLsb' 63 1 = sign.toBitVec
  rw [BitVec.extractLsb'_append_eq_of_le (by decide),
    BitVec.extractLsb'_append_eq_of_le (by decide)]
  exact BitVec.extractLsb'_eq_self

theorem unpack_cases (bits : BitVec Format.binary64.numBits) :
    (unpackExponent bits = -1 ∧ unpackMantissa bits ≠ 0 ∧
      UnpackedFloat.unpack Format.binary64 bits = .notANumber) ∨
    (unpackExponent bits = 0 ∧ unpackMantissa bits = 0 ∧
      UnpackedFloat.unpack Format.binary64 bits = .zero (Sign.ofBitVec (unpackSign bits))) ∨
    UnpackedFloat.unpack Format.binary64 bits = .infinity (Sign.ofBitVec (unpackSign bits)) ∨
    ∃ mantissa exponent hmantissa, mantissa < 2 ^ 53 ∧ -1074 ≤ exponent ∧
      UnpackedFloat.unpack Format.binary64 bits =
        .finite (Sign.ofBitVec (unpackSign bits)) mantissa exponent hmantissa := by
  have hbias : (Format.binary64.exponentBias : ℤ) +
      Format.binary64.mantissaBitsWithoutImplicit = 1075 := rfl
  by_cases hones : unpackExponent bits = -1
  · by_cases hnone : unpackMantissa bits = 0
    · exact .inr (.inr (.inl ((if_pos hones).trans (if_pos hnone))))
    · exact .inl ⟨hones, hnone, (if_pos hones).trans (if_neg hnone)⟩
  · by_cases hzero : unpackExponent bits = 0
    · by_cases hnone : unpackMantissa bits = 0
      · exact .inr (.inl ⟨hzero, hnone,
          (if_neg hones).trans ((if_pos hzero).trans (dif_pos hnone))⟩)
      · have hbound : (unpackMantissa bits).toNat < 2 ^ 52 := (unpackMantissa bits).isLt
        have hpos : 0 < (unpackMantissa bits).toNat :=
          Nat.pos_of_ne_zero fun hdigits ↦ hnone (BitVec.eq_of_toNat_eq hdigits)
        refine .inr (.inr (.inr ⟨_, _, hpos, by omega, ?_,
          (if_neg hones).trans ((if_pos hzero).trans (dif_neg hnone))⟩))
        omega
    · have hexponent : (unpackExponent bits).toNat ≠ 0 :=
        fun hdigits ↦ hzero (BitVec.eq_of_toNat_eq hdigits)
      have hpos : 0 < (1#1 ++ unpackMantissa bits).toNat := by
        rw [BitVec.toNat_append]
        exact (Nat.two_pow_pos 52).trans_le Nat.left_le_or
      refine .inr (.inr (.inr ⟨_, _, hpos, (1#1 ++ unpackMantissa bits).isLt, ?_,
        (if_neg hones).trans (if_neg hzero)⟩))
      omega

theorem unpack_bounds {model : Float.Model} {sign : Sign} {mantissa : ℕ} {exponent : ℤ}
    {hmantissa : 0 < mantissa} (h : model.unpack = .finite sign mantissa exponent hmantissa) :
    mantissa < 2 ^ 53 ∧ -1074 ≤ exponent := by
  obtain ⟨-, -, hvalue⟩ | ⟨-, -, hvalue⟩ | hvalue | ⟨m, e, hm, hbound, hmin, hvalue⟩ :=
    unpack_cases model.toBits.toBitVec
  all_goals have heq := h.symm.trans hvalue
  · cases heq
  · cases heq
  · cases heq
  · obtain ⟨-, rfl, rfl⟩ := heq
    exact ⟨hbound, hmin⟩

theorem isAboveZero_unpack_packComponents {exponent : BitVec 11} {mantissa : BitVec 52}
    (hnumber : exponent = -1 → mantissa = 0) (hsome : exponent = 0 → mantissa ≠ 0) :
    IsAboveZero (UnpackedFloat.unpack Format.binary64
      (packComponents Format.binary64 .positive exponent mantissa)) := by
  have hexponent : unpackExponent (packComponents Format.binary64 .positive exponent mantissa) =
      exponent := unpackExponent_packComponents
  have hmantissa : unpackMantissa (packComponents Format.binary64 .positive exponent mantissa) =
      mantissa := unpackMantissa_packComponents
  have hsign : Sign.ofBitVec (unpackSign
      (packComponents Format.binary64 .positive exponent mantissa)) = .positive := by
    rw [unpackSign_packComponents]
    rfl
  obtain ⟨hones, hpayload, -⟩ | ⟨hzero, hnone, -⟩ | hvalue | ⟨m, e, hm, hbound, hmin, hvalue⟩ :=
    unpack_cases (packComponents Format.binary64 .positive exponent mantissa)
  · exact absurd (hmantissa.trans (hnumber (hexponent.symm.trans hones))) hpayload
  · exact absurd (hmantissa.symm.trans hnone) (hsome (hexponent.symm.trans hzero))
  · rw [hvalue, hsign]
    exact .infinity
  · rw [hvalue, hsign]
    exact .finite hbound hmin

theorem isAboveZero_unpack_pack {u : UnpackedFloat} (h : IsAboveZero u) :
    IsAboveZero (Float.Model.pack u).unpack := by
  change IsAboveZero (UnpackedFloat.unpack Format.binary64 (UnpackedFloat.pack Format.binary64 u))
  have hinfinity : IsAboveZero (UnpackedFloat.unpack Format.binary64
      (packedInfinity Format.binary64 .positive)) :=
    isAboveZero_unpack_packComponents (fun _ ↦ rfl) fun hzero ↦ absurd hzero (by decide)
  cases h with
  | infinity => exact hinfinity
  | @finite mantissa exponent hpos hbound hmin =>
    have hbias : (Format.binary64.exponentBias : ℤ) + 52 = 1075 := rfl
    unfold UnpackedFloat.pack
    dsimp only
    -- Too large, normal with an exponent other than zero, or subnormal with a digit in the mantissa.
    split
    · exact hinfinity
    · next hsmall =>
      split
      · refine isAboveZero_unpack_packComponents (fun hones ↦ ?_) fun hzero ↦ ?_
        · have hmax := congrArg BitVec.toNat hones
          rw [BitVec.toNat_ofNat, Nat.mod_eq_of_lt (by omega)] at hmax
          have hall : (-1 : BitVec 11).toNat = 2047 := rfl
          omega
        · have hmax := congrArg BitVec.toNat hzero
          rw [BitVec.toNat_ofNat, Nat.mod_eq_of_lt (by omega)] at hmax
          have hall : (0 : BitVec 11).toNat = 0 := rfl
          omega
      · next hdigits =>
        refine isAboveZero_unpack_packComponents (fun hones ↦ absurd hones (by decide))
          fun _ hnone ↦ ?_
        have hlog : mantissa.log2 < 52 := by
          have := (Nat.log2_lt hpos.ne').mpr hbound
          have hdigits : mantissa.log2 + 1 ≠ 53 := hdigits
          omega
        have hvalue := congrArg BitVec.toNat hnone
        rw [BitVec.toNat_ofNat, Nat.mod_eq_of_lt ((Nat.log2_lt hpos.ne').mp hlog)] at hvalue
        exact hpos.ne' hvalue

theorem orderPlace?_pos_iff (u : UnpackedFloat) :
    (∃ place, orderPlace? u = some place ∧ toLex (0, toLex (0, 0)) < place) ↔
      u = .infinity .positive ∨
        ∃ mantissa exponent hmantissa, u = .finite .positive mantissa exponent hmantissa := by
  constructor
  · rintro ⟨place, hplace, hpos⟩
    cases u with
    | notANumber => cases hplace
    | zero =>
      obtain rfl := Option.some.inj hplace
      exact absurd hpos (lt_irrefl _)
    | infinity sign =>
      cases sign with
      | negative =>
        obtain rfl := Option.some.inj hplace
        exact absurd hpos (by decide)
      | positive => exact .inl rfl
    | finite sign mantissa exponent hmantissa =>
      cases sign with
      | negative =>
        obtain rfl := Option.some.inj hplace
        exact absurd hpos (by simp [Prod.Lex.toLex_lt_toLex])
      | positive => exact .inr ⟨mantissa, exponent, hmantissa, rfl⟩
  · rintro (rfl | ⟨mantissa, exponent, hmantissa, rfl⟩)
    · exact ⟨_, rfl, by decide⟩
    · exact ⟨_, rfl, Prod.Lex.toLex_lt_toLex.mpr (.inl one_pos)⟩

theorem pos_iff (a : Double) : 0 < a ↔ IsAboveZero a.value.toModel.unpack := by
  have hzero : orderPlace? (0 : Double).value.toModel.unpack = some (toLex (0, toLex (0, 0))) := by
    decide +kernel
  have hplace : 0 < a ↔ ∃ place, orderPlace? a.value.toModel.unpack = some place ∧
      toLex (0, toLex (0, 0)) < place := by
    rw [lt_iff, hzero]
    simp
  rw [hplace, orderPlace?_pos_iff]
  constructor
  · rintro (hinfinite | ⟨mantissa, exponent, hmantissa, hfinite⟩)
    · rw [hinfinite]
      exact .infinity
    · obtain ⟨hbound, hmin⟩ := unpack_bounds hfinite
      rw [hfinite]
      exact .finite hbound hmin
  · exact IsAboveZero.eq_or_eq

theorem isAboveZero_unpacked_add {u v : UnpackedFloat} (hu : IsAboveZero u) (hv : IsAboveZero v) :
    IsAboveZero (UnpackedFloat.add Format.binary64 u v) := by
  cases hu with
  | infinity => cases hv <;> exact .infinity
  | @finite m e hm _ hmin =>
    cases hv with
    | infinity => exact .infinity
    | @finite n f hn _ hmin' =>
      have hm' := decreaseExponent_pos hm e (min e f)
      have hn' := decreaseExponent_pos hn f (min e f)
      refine isAboveZero_normalize ?_ (le_min hmin hmin') .positive
      exact Int.add_pos (Int.natCast_pos.mpr hm') (Int.natCast_pos.mpr hn')

theorem isAboveZero_unpacked_zero_add (sign : Sign) {v : UnpackedFloat} (hv : IsAboveZero v) :
    IsAboveZero (UnpackedFloat.add Format.binary64 (.zero sign) v) := by
  cases hv with
  | infinity => exact .infinity
  | finite hbound hmin => exact .finite hbound hmin

theorem isNaN_of_isAboveZero {a : Double} (h : IsAboveZero a.value.toModel.unpack) :
    a.isNaN = false := by
  change a.value.toModel.unpack.isNaN = false
  obtain hvalue | ⟨mantissa, exponent, hmantissa, hvalue⟩ := h.eq_or_eq <;> rw [hvalue] <;> rfl

end Double

instance : PositiveScalar Double where
  zero_add_pos {a} h := by
    rw [Double.pos_iff] at h ⊢
    have hzero : (0 : Double).value.toModel.unpack = .zero .positive := rfl
    have hsum : 0 + a = Double.ofResult ((0 : Double).value + a.value) :=
      Double.binary_of_isNaN_eq_false (by decide +kernel) (Double.isNaN_of_isAboveZero h)
    rw [hsum]
    refine Double.isAboveZero_unpack_pack ?_
    rw [hzero]
    exact Double.isAboveZero_unpacked_zero_add .positive h
  add_pos {a b} ha hb := by
    rw [Double.pos_iff] at ha hb ⊢
    have hsum : a + b = Double.ofResult (a.value + b.value) :=
      Double.binary_of_isNaN_eq_false (Double.isNaN_of_isAboveZero ha)
        (Double.isNaN_of_isAboveZero hb)
    rw [hsum]
    exact Double.isAboveZero_unpack_pack (Double.isAboveZero_unpacked_add ha hb)

namespace Scalar

variable {α : Type} [Scalar α] [PositiveScalar α]

theorem foldl_add_pos {l : List α} {a : α} (ha : 0 < a) (h : ∀ b ∈ l, 0 < b) :
    0 < l.foldl (· + ·) a := by
  induction l generalizing a with
  | nil => exact ha
  | cons b l ih =>
    rw [List.forall_mem_cons] at h
    exact ih (PositiveScalar.add_pos ha h.1) h.2

theorem sum_pos {l : List α} (hsome : l ≠ []) (h : ∀ a ∈ l, 0 < a) : 0 < Scalar.sum l := by
  cases l with
  | nil => exact absurd rfl hsome
  | cons a l =>
    rw [List.forall_mem_cons] at h
    change 0 < l.foldl (· + ·) (0 + a)
    exact foldl_add_pos (PositiveScalar.zero_add_pos h.1) h.2

theorem not_nonpos_of_pos {a : α} (h : 0 < a) : ¬ a ≤ 0 :=
  (OrderedScalar.lt_iff.mp h).2

end Scalar

end WorkflowSearch
