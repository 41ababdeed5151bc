import WorkflowSearch.Proofs.Scalar.Exact
import WorkflowSearch.Proofs.Config.Validity
import WorkflowSearch.Proofs.Synthesis.Coverage

namespace WorkflowSearch

variable {α σ : Type}

section Drafts

variable [Scalar α] [RandomSource σ] {task : String} {schema : Schema} {config : DatasetConfig α}
  {source : σ} {dataset : Dataset α}

theorem countP_hardNegative_le_of_synthesize
    (h : synthesize task schema config source = .ok dataset) :
    dataset.cases.countP (·.origin.hardNegative) ≤ hardNegativeTarget config := by
  obtain ⟨-, pool, -, -, -, -, -, hreport⟩ := exists_drafts_of_synthesize h
  have hcount := (exists_turns_of_synthesize h).1
  rwa [hreport] at hcount

theorem length_cases_of_synthesize (h : synthesize task schema config source = .ok dataset) :
    dataset.cases.length = config.targetSize := by
  obtain ⟨drafts, -, hlength, -, -, hperm, -⟩ := exists_drafts_of_synthesize h
  rw [← hlength, ← hperm.length_eq, List.length_map]

end Drafts

section Target

theorem hardNegativeTarget_off [Scalar α] {config : DatasetConfig α}
    (h : config.hardNegatives = false) : hardNegativeTarget config = 0 := by
  simp [hardNegativeTarget, h]

variable [ExactScalar α] {config : DatasetConfig α}

theorem DatasetConfig.Valid.hardNegativeRatio_mem (h : config.Valid) :
    0 ≤ config.hardNegativeRatio ∧ config.hardNegativeRatio ≤ 1 := by
  have hwithin := h.hardNegativeRatio
  simp only [isWithin, Bool.and_eq_true, decide_eq_true_eq] at hwithin
  obtain ⟨hnonneg, hhalf⟩ := hwithin
  refine ⟨hnonneg, hhalf.trans ?_⟩
  rw [ExactScalar.ofScientific_eq]
  have hsmall : (0.5 : ℚ) ≤ 1 := by norm_num
  exact_mod_cast hsmall

theorem DatasetConfig.Valid.hardNegativeTarget_le_round (h : config.Valid) :
    hardNegativeTarget config ≤
      Scalar.roundNat ((config.targetSize : α) * config.hardNegativeRatio) := by
  obtain ⟨hnonneg, hle⟩ := h.hardNegativeRatio_mem
  unfold hardNegativeTarget
  rw [clamp_of_not_lt hnonneg.not_gt hle.not_gt]
  split
  · exact Nat.min_le_left ..
  · exact Nat.zero_le _

end Target

/-- A dataset has no hard negatives where none are wanted, and else no more than half of its cases.
Their share is below the configured one, or above it by half a case at most; it is not above it
where the configured share of the cases is not rounded up. -/
theorem hardNegatives_share_le [ExactScalar α] [RandomSource σ] {task : String} {schema : Schema}
    {config : DatasetConfig α} {source : σ} {dataset : Dataset α}
    (hconfig : config.validate = .ok ())
    (h : synthesize task schema config source = .ok dataset) :
    let size := dataset.cases.length
    let negatives := dataset.cases.countP (·.origin.hardNegative)
    let ratio := config.hardNegativeRatio
    (config.hardNegatives = false → negatives = 0) ∧
      negatives ≤ size / 2 ∧
      (negatives / size : α) ≤ ratio + 1 / (2 * size) ∧
      ∀ whole : ℕ, whole ≤ size * ratio → size * ratio < whole + 1 / 2 →
        (negatives / size : α) ≤ ratio := by
  intro size negatives ratio
  have hvalid := config.validate_eq_ok_iff.mp hconfig
  have hsize : size = config.targetSize := length_cases_of_synthesize h
  have hfew : negatives ≤ hardNegativeTarget config := countP_hardNegative_le_of_synthesize h
  have hround : negatives ≤ Scalar.roundNat (size * ratio) :=
    hsize ▸ hfew.trans hvalid.hardNegativeTarget_le_round
  have hpositive : (0 : α) < size := by
    have hne : size ≠ 0 := by
      have hmin := hvalid.minSize.1
      have htarget := hvalid.targetSize.1
      omega
    exact_mod_cast Nat.pos_of_ne_zero hne
  refine ⟨fun hoff ↦ ?_, ?_, ?_, fun whole hwhole hlt ↦ ?_⟩
  · rw [hardNegativeTarget_off hoff] at hfew
    exact Nat.le_zero.mp hfew
  · rw [hsize]
    exact hfew.trans (hardNegativeTarget_le_half config)
  · have hnonneg : 0 ≤ size * ratio :=
      mul_nonneg hpositive.le hvalid.hardNegativeRatio_mem.1
    have hhalf : (negatives : α) ≤ size * ratio + 1 / 2 :=
      (Nat.cast_le.mpr hround).trans (ExactScalar.roundNat_le_add_half hnonneg)
    rw [div_le_iff₀ hpositive]
    calc (negatives : α) ≤ size * ratio + 1 / 2 := hhalf
      _ = (ratio + 1 / (2 * size)) * size := by
        field_simp
  · have hnegatives : (negatives : α) ≤ whole :=
      Nat.cast_le.mpr (hround.trans (ExactScalar.roundNat_le_of_lt hlt))
    rw [div_le_iff₀ hpositive, mul_comm]
    exact hnegatives.trans hwhole

/-- A third of three cases is one case. -/
theorem thirdOfThree_share :
    let config : DatasetConfig ℚ :=
      { DatasetConfig.default with targetSize := 3, minSize := 3, hardNegativeRatio := 1 / 3 }
    config.validate = .ok () ∧
      ∃ dataset, synthesize "Find accounts" ⟨["Account"], ["OWNS"]⟩ config (ChaCha.ofSeed 1) =
          .ok dataset ∧
        dataset.cases.length = 3 ∧ dataset.cases.countP (·.origin.hardNegative) = 1 ∧
        (dataset.cases.countP (·.origin.hardNegative) / dataset.cases.length : ℚ) ≤ 1 / 3 := by
  intro config
  have hconfig : config.validate = .ok () := eq_ok_of_isOk (by decide +kernel)
  have hcounts : (synthesize "Find accounts" ⟨["Account"], ["OWNS"]⟩ config
      (ChaCha.ofSeed 1)).toOption.map
        (fun dataset ↦ (dataset.cases.length, dataset.cases.countP (·.origin.hardNegative))) =
      some (3, 1) := by
    decide +kernel
  obtain ⟨dataset, hdataset, hcounts⟩ := exists_eq_ok_of_map hcounts
  obtain ⟨hlength, hcount⟩ := Prod.mk.inj hcounts
  obtain ⟨-, -, -, hwhole⟩ := hardNegatives_share_le hconfig hdataset
  refine ⟨hconfig, dataset, hdataset, hlength, hcount, hwhole 1 ?_ ?_⟩
  · norm_num [hlength, config]
  · norm_num [hlength, config]

/-- A fifth of three cases is rounded up to one case, which is a third of them. -/
theorem fifthOfThree_share :
    let config : DatasetConfig ℚ := { DatasetConfig.default with targetSize := 3, minSize := 3 }
    config.validate = .ok () ∧ config.hardNegativeRatio = 1 / 5 ∧
      ∃ dataset, synthesize "Find accounts" ⟨["Account"], ["OWNS"]⟩ config (ChaCha.ofSeed 1) =
          .ok dataset ∧
        (dataset.cases.countP (·.origin.hardNegative) / dataset.cases.length : ℚ) = 1 / 3 ∧
        ¬ (dataset.cases.countP (·.origin.hardNegative) / dataset.cases.length : ℚ) ≤
          config.hardNegativeRatio := by
  intro config
  have hconfig : config.validate = .ok () := eq_ok_of_isOk (by decide +kernel)
  have hratio : config.hardNegativeRatio = 1 / 5 := by decide +kernel
  obtain ⟨dataset, hdataset, hcount, -⟩ := exists_threeCases
  have hlength : dataset.cases.length = 3 := length_cases_of_synthesize hdataset
  obtain ⟨-, pool, -, -, -, -, -, hreport⟩ := exists_drafts_of_synthesize hdataset
  have hnegatives : dataset.cases.countP (·.origin.hardNegative) = 1 := by
    rwa [hreport] at hcount
  have hshare : (dataset.cases.countP (·.origin.hardNegative) / dataset.cases.length : ℚ) =
      1 / 3 := by
    rw [hnegatives, hlength]
    norm_num
  refine ⟨hconfig, hratio, dataset, hdataset, hshare, ?_⟩
  rw [hshare, hratio]
  norm_num

end WorkflowSearch
