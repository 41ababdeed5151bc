import WorkflowSearch.Proofs.Scalar.Exact
import WorkflowSearch.Proofs.Config.Validity
import WorkflowSearch.Proofs.Synthesis.Splits

namespace WorkflowSearch

section Fill

variable {minimum missing : ℕ} {split : Split} {sizes : PerSplit ℕ}

theorem foldl_ne_none {β : Type} {step : Option β → β → Option β}
    (hstep : ∀ best b, step best b ≠ none) {items : List β} {start : Option β}
    (h : start ≠ none ∨ items ≠ []) : items.foldl step start ≠ none := by
  induction items generalizing start with
  | nil => simpa using h
  | cons item items ih => exact ih (.inl (hstep start item))

theorem exists_donor {other : Split} (hne : other ≠ split) (hspare : minimum < sizes.get other) :
    ∃ donor, donor? sizes minimum split = some donor := by
  refine Option.ne_none_iff_exists'.mp (foldl_ne_none (fun best s ↦ ?_) (.inr ?_))
  · cases best with
    | none => exact Option.some_ne_none s
    | some b =>
      dsimp only
      split
      · exact Option.some_ne_none s
      · exact Option.some_ne_none b
  · have hall : other ∈ Split.all := by cases other <;> decide
    exact List.ne_nil_of_mem (List.mem_filter.mpr ⟨hall, by simp [hne, hspare]⟩)

theorem exists_spare (htotal : 3 * minimum ≤ sizes.total) (hshort : sizes.get split < minimum) :
    ∃ other ≠ split, minimum < sizes.get other := by
  by_contra! hnone
  have hothers (other : Split) : sizes.get other ≤ minimum := by
    by_cases hother : other = split
    · exact hother ▸ hshort.le
    · exact hnone other hother
  have htrain : sizes.train ≤ minimum := hothers .train
  have hvalidation : sizes.validation ≤ minimum := hothers .validation
  have htest : sizes.test ≤ minimum := hothers .test
  unfold PerSplit.total at htotal
  cases split with
  | train =>
    have hshort : sizes.train < minimum := hshort
    omega
  | validation =>
    have hshort : sizes.validation < minimum := hshort
    omega
  | test =>
    have hshort : sizes.test < minimum := hshort
    omega

theorem exists_fillSplit (htotal : 3 * minimum ≤ sizes.total)
    (hmissing : sizes.get split + missing ≤ minimum) :
    ∃ filled, fillSplit minimum split missing sizes = some filled := by
  induction missing generalizing sizes with
  | zero => exact ⟨sizes, rfl⟩
  | succ missing ih =>
    have hshort : sizes.get split < minimum := by omega
    obtain ⟨other, hother, hspare⟩ := exists_spare htotal hshort
    obtain ⟨donor, hdonor⟩ := exists_donor hother hspare
    obtain ⟨hne, hspare⟩ := donor?_spec hdonor
    rw [fillSplit, hdonor]
    refine ih ?_ ?_
    · rwa [PerSplit.total_lend hne (Nat.zero_lt_of_lt hspare)]
    · rw [PerSplit.get_modify_self, PerSplit.get_modify_of_ne _ _ hne.symm]
      omega

theorem exists_fills (splits : List Split) (htotal : 3 * minimum ≤ sizes.total) :
    ∃ filled, splits.foldlM (fun sizes split ↦
      fillSplit minimum split (minimum - sizes.get split) sizes) sizes = some filled := by
  induction splits generalizing sizes with
  | nil => exact ⟨sizes, rfl⟩
  | cons split splits ih =>
    obtain ⟨filled, hfilled⟩ : ∃ filled,
        fillSplit minimum split (minimum - sizes.get split) sizes = some filled := by
      by_cases hshort : sizes.get split ≤ minimum
      · exact exists_fillSplit htotal (by omega)
      · rw [Nat.sub_eq_zero_of_le (by omega)]
        exact ⟨sizes, rfl⟩
    rw [List.foldlM_cons, hfilled]
    exact ih (total_fillSplit hfilled ▸ htotal)

end Fill

section Sizes

variable {α : Type} [Scalar α] {size : ℕ} {config : DatasetConfig α} {start sizes : PerSplit ℕ}

/-- The second subtraction never fails: validation gets no more than what is left. -/
theorem floorSizes_eq_some_iff {ratios : SplitRatios α} :
    floorSizes size ratios = some start ↔ start.train = trainShare size ratios ∧
      start.validation =
        min (Scalar.floorNat ((size : α) * ratios.val)) (size - trainShare size ratios) ∧
      start.total = size := by
  unfold floorSizes PerSplit.total
  obtain ⟨train, validation, test⟩ := start
  simp only [Option.bind_eq_bind, Option.bind_eq_some_iff, checkedSub_eq_some_iff, Option.pure_def,
    Option.some.injEq, PerSplit.mk.injEq]
  constructor
  · rintro ⟨rest, ⟨hle, rfl⟩, _, ⟨hrest, rfl⟩, rfl, rfl, rfl⟩
    exact ⟨rfl, rfl, by omega⟩
  · rintro ⟨rfl, rfl, htotal⟩
    exact ⟨_, ⟨by omega, rfl⟩, _, ⟨Nat.min_le_right .., rfl⟩, rfl, rfl, by omega⟩

theorem exists_floorSizes {ratios : SplitRatios α} (h : trainShare size ratios ≤ size) :
    ∃ start, floorSizes size ratios = some start := by
  let rest := size - trainShare size ratios
  let validation := min (Scalar.floorNat ((size : α) * ratios.val)) rest
  have htotal : (⟨trainShare size ratios, validation, rest - validation⟩ : PerSplit ℕ).total =
      size := by
    dsimp only [PerSplit.total]
    omega
  exact ⟨_, floorSizes_eq_some_iff.mpr ⟨rfl, rfl, htotal⟩⟩

theorem floorSizes_eq_none_iff {ratios : SplitRatios α} :
    floorSizes size ratios = none ↔ size < trainShare size ratios := by
  constructor
  · intro hnone
    by_contra! hle
    obtain ⟨start, hstart⟩ := exists_floorSizes hle
    exact Option.some_ne_none start (hstart.symm.trans hnone)
  · intro hlt
    rw [Option.eq_none_iff_forall_ne_some]
    intro start hstart
    obtain ⟨htrain, -, htotal⟩ := floorSizes_eq_some_iff.mp hstart
    unfold PerSplit.total at htotal
    omega

theorem total_splitSizes (h : splitSizes size config = .ok sizes) : sizes.total = size := by
  obtain ⟨-, start, a, b, hstart, ha, hb, hc⟩ := exists_fills_of_splitSizes h
  obtain ⟨-, -, htotal⟩ := floorSizes_eq_some_iff.mp hstart
  rw [total_fillSplit hc, total_fillSplit hb, total_fillSplit ha, htotal]

theorem eq_floorSizes_of_splitSizes (h : splitSizes size config = .ok sizes)
    (hstart : floorSizes size config.splitRatios = some start)
    (hall : ∀ split, config.minPerSplit ≤ start.get split) : sizes = start := by
  obtain ⟨-, start', a, b, hstart', ha, hb, hc⟩ := exists_fills_of_splitSizes h
  obtain rfl := Option.some.inj (hstart'.symm.trans hstart)
  rw [Nat.sub_eq_zero_of_le (hall .train)] at ha
  obtain rfl := Option.some.inj ha
  rw [Nat.sub_eq_zero_of_le (hall .validation)] at hb
  obtain rfl := Option.some.inj hb
  rw [Nat.sub_eq_zero_of_le (hall .test)] at hc
  exact (Option.some.inj hc).symm

theorem splitSizes_eq_failed (h : size < 3 * config.minPerSplit ∨ size = 0) :
    splitSizes size config = .error (.failed (.splitUnsatisfiable size config.minPerSplit)) := by
  rw [Nat.mul_comm] at h
  exact if_pos h

theorem splitSizes_eq_panicked (hpositive : size ≠ 0) (hsize : 3 * config.minPerSplit ≤ size)
    (h : size < trainShare size config.splitRatios) :
    splitSizes size config = .error .panicked := by
  unfold splitSizes
  dsimp only
  rw [if_neg (by omega), floorSizes_eq_none_iff.mpr h]

theorem exists_splitSizes (hpositive : size ≠ 0) (hsize : 3 * config.minPerSplit ≤ size)
    (hstart : floorSizes size config.splitRatios = some start) :
    ∃ sizes, splitSizes size config = .ok sizes := by
  obtain ⟨-, -, htotal⟩ := floorSizes_eq_some_iff.mp hstart
  obtain ⟨filled, hfilled⟩ := exists_fills Split.all (htotal ▸ hsize)
  refine ⟨filled, ?_⟩
  unfold splitSizes
  dsimp only
  rw [if_neg (by omega), hstart]
  dsimp only
  rw [hfilled]

end Sizes

section Exact

deriving instance DecidableEq for PerSplit

variable {α : Type} [ExactScalar α]

theorem SplitRatios.train_lt {ratios : SplitRatios α} (h : ratios.validate = .ok ()) :
    ratios.train < 1 + 1 / 1000000 := by
  obtain ⟨hshares, hdistance⟩ := SplitRatios.validate_eq_ok_iff.mp h
  obtain ⟨-, hval, htest⟩ : 0 < ratios.train ∧ 0 < ratios.val ∧ 0 < ratios.test := by
    simpa [ExactScalar.isPositive_iff] using hshares
  have hmillionth : ((1e-6 : ℚ) : α) = 1 / 1000000 := by norm_num
  have hone : ((1.0 : ℚ) : α) = 1 := by norm_num
  rw [ExactScalar.ofScientific_eq, hmillionth, ExactScalar.ofScientific_eq, hone,
    not_lt] at hdistance
  have hsum : Scalar.sum [ratios.train, ratios.val, ratios.test] - 1 ≤ 1 / 1000000 := by
    unfold Scalar.abs at hdistance
    split at hdistance
    · linarith
    · exact hdistance
  have hshares : Scalar.sum [ratios.train, ratios.val, ratios.test] =
      0 + ratios.train + ratios.val + ratios.test := rfl
  rw [hshares] at hsum
  linarith

theorem trainShare_le {size : ℕ} {ratios : SplitRatios α} (h : ratios.validate = .ok ())
    (hfew : ratios.train ≤ 1 ∨ size ≤ 1000000) : trainShare size ratios ≤ size := by
  by_contra! hlt
  obtain hzero | ⟨-, hle⟩ := (ExactScalar.le_floorNat_iff _ _).mp hlt
  · exact absurd hzero size.succ_ne_zero
  rw [Nat.cast_succ] at hle
  have hsize : (0 : α) ≤ size := Nat.cast_nonneg size
  obtain hone | hone := le_or_gt ratios.train 1
  · have hless := mul_le_mul_of_nonneg_left hone hsize
    linarith
  · have hmillion : (size : α) ≤ 1000000 := by
      have hsmall := hfew.resolve_left hone.not_ge
      exact_mod_cast hsmall
    have htrain := SplitRatios.train_lt h
    have hless := mul_le_mul_of_nonneg_right hmillion (sub_pos.mpr hone).le
    linarith

/-- Too few cases cannot be split. Enough of them are split, into as many as there are, where every
split has the minimum and the sizes that the shares give are kept if each of them has it; unless the
first rounded share is more than all cases, where there is a panic. It is no more for up to a million
cases, and for any number of them if the first share is at most one. That is the only subtraction
that can go below zero: a split that lends a case has more than the minimum. -/
theorem splitSizes_of_validate {config : DatasetConfig α} (hconfig : config.validate = .ok ())
    (size : ℕ) :
    let minimum := config.minPerSplit
    let train := trainShare size config.splitRatios
    (size < 3 * minimum ∨ size = 0 →
        splitSizes size config = .error (.failed (.splitUnsatisfiable size minimum))) ∧
      (3 * minimum ≤ size → size < train → splitSizes size config = .error .panicked) ∧
      (3 * minimum ≤ size → train ≤ size → ∃ start sizes,
        floorSizes size config.splitRatios = some start ∧ splitSizes size config = .ok sizes ∧
        start.total = size ∧ sizes.total = size ∧ (∀ split, minimum ≤ sizes.get split) ∧
        ((∀ split, minimum ≤ start.get split) → sizes = start)) ∧
      (∀ sizes split donor, donor? sizes minimum split = some donor → minimum < sizes.get donor) ∧
      (config.splitRatios.train ≤ 1 ∨ size ≤ 1000000 → train ≤ size) := by
  intro minimum train
  have hvalid := config.validate_eq_ok_iff.mp hconfig
  have hpositive (hsize : 3 * minimum ≤ size) : size ≠ 0 := by
    have hminimum : minimum ≠ 0 := hvalid.minPerSplit
    omega
  refine ⟨splitSizes_eq_failed, fun hsize htrain ↦ ?_, fun hsize htrain ↦ ?_,
    fun _ _ _ hdonor ↦ (donor?_spec hdonor).2, trainShare_le hvalid.splitRatios⟩
  · exact splitSizes_eq_panicked (hpositive hsize) hsize htrain
  · obtain ⟨start, hstart⟩ := exists_floorSizes htrain
    obtain ⟨sizes, hsizes⟩ := exists_splitSizes (hpositive hsize) hsize hstart
    exact ⟨start, sizes, hstart, hsizes, (floorSizes_eq_some_iff.mp hstart).2.2,
      total_splitSizes hsizes, (splitSizes_spec hsizes).2, eq_floorSizes_of_splitSizes hsizes hstart⟩

/-- The shares of four cases are two and none, and two are left, of which the first lends one. -/
theorem fourCases_splitSizes :
    let config : DatasetConfig ℚ := DatasetConfig.default
    config.validate = .ok () ∧ floorSizes 4 config.splitRatios = some ⟨2, 0, 2⟩ ∧
      splitSizes 4 config = .ok ⟨1, 1, 2⟩ ∧ (⟨1, 1, 2⟩ : PerSplit ℕ).total = 4 ∧
      splitSizes 2 config = .error (.failed (.splitUnsatisfiable 2 1)) := by
  intro config
  have hconfig : config.validate = .ok () := eq_ok_of_isOk (by decide +kernel)
  have hview : (splitSizes 4 config).toOption.map id = some ⟨1, 1, 2⟩ := by decide +kernel
  obtain ⟨_, hvalue, rfl⟩ := exists_eq_ok_of_map hview
  obtain ⟨-, -, hsizes, -, hfew⟩ := splitSizes_of_validate hconfig 4
  obtain ⟨hnone, -⟩ := splitSizes_of_validate hconfig 2
  obtain ⟨_, sizes, -, hsplit, -, htotal, -⟩ := hsizes (by decide) (hfew (.inr (by decide)))
  obtain rfl := Except.ok.inj (hvalue.symm.trans hsplit)
  exact ⟨hconfig, by decide +kernel, hvalue, htotal, hnone (.inl (by decide))⟩

/-- Shares that sum to one and less than a millionth. The first share of a few cases more than a
million is one more than there are, so that the rest would be less than nothing. -/
theorem splitSizes_panics :
    let config : DatasetConfig ℚ :=
      { DatasetConfig.default with
        targetSize := 1010110
        maxSize := 1010110
        splitRatios := ⟨1.00000099, 1e-12, 1e-12⟩ }
    config.validate = .ok () ∧ 3 * config.minPerSplit ≤ 1010110 ∧
      trainShare 1010110 config.splitRatios = 1010110 + 1 ∧
      splitSizes 1010110 config = .error .panicked := by
  intro config
  have hconfig : config.validate = .ok () := eq_ok_of_isOk (by decide +kernel)
  have htrain : trainShare 1010110 config.splitRatios = 1010110 + 1 := by decide +kernel
  have hsize : 3 * config.minPerSplit ≤ 1010110 := by decide
  have hlt : 1010110 < trainShare 1010110 config.splitRatios := by
    rw [htrain]
    exact Nat.lt_succ_self _
  exact ⟨hconfig, hsize, htrain, splitSizes_eq_panicked (by decide) hsize hlt⟩

end Exact

end WorkflowSearch
