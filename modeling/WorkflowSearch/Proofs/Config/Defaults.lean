import Mathlib.Tactic.NormNum
import WorkflowSearch.Proofs.Config.Validity
import WorkflowSearch.Proofs.Scalar.Exact

namespace WorkflowSearch

variable {α : Type} [ExactScalar α]

section Literal

variable {mantissa exponent : ℕ} {negative : Bool}

theorem literal_pos (h : (0 : ℚ) < OfScientific.ofScientific mantissa negative exponent) :
    (0 : α) < @OfScientific.ofScientific α Scalar.toOfScientific mantissa negative exponent := by
  rw [ExactScalar.ofScientific_eq]
  exact_mod_cast h

theorem literal_lt_one (h : (OfScientific.ofScientific mantissa negative exponent : ℚ) < 1) :
    @OfScientific.ofScientific α Scalar.toOfScientific mantissa negative exponent < 1 := by
  rw [ExactScalar.ofScientific_eq]
  exact_mod_cast h

theorem isPositive_literal (h : (0 : ℚ) < OfScientific.ofScientific mantissa negative exponent) :
    Scalar.isPositive (@OfScientific.ofScientific α Scalar.toOfScientific mantissa negative
      exponent) = true :=
  ExactScalar.isPositive_iff.mpr (literal_pos h)

theorem isNonNegative_literal (h : (0 : ℚ) < OfScientific.ofScientific mantissa negative exponent) :
    Scalar.isNonNegative (@OfScientific.ofScientific α Scalar.toOfScientific mantissa negative
      exponent) = true :=
  ExactScalar.isNonNegative_iff.mpr (literal_pos h).le

theorem isWithin_literal (h : (0 : ℚ) < OfScientific.ofScientific mantissa negative exponent)
    (h' : (OfScientific.ofScientific mantissa negative exponent : ℚ) < 1) :
    isWithin 0 1 (@OfScientific.ofScientific α Scalar.toOfScientific mantissa negative
      exponent) = true := by
  rw [isWithin, Bool.and_eq_true, decide_eq_true_iff, decide_eq_true_iff]
  exact ⟨(literal_pos h).le, (literal_lt_one h').le⟩

end Literal

theorem ObjectiveWeights.default_valid : (default : ObjectiveWeights α).Valid where
  confidence := isNonNegative_literal (by norm_num)
  latency := isNonNegative_literal (by norm_num)
  cost := isNonNegative_literal (by norm_num)
  complexity := isNonNegative_literal (by norm_num)
  uncertainty := isNonNegative_literal (by norm_num)
  generalization := isNonNegative_literal (by norm_num)
  latencyScaleMs := isPositive_literal (by norm_num)
  tokenCostScale := isPositive_literal (by norm_num)

variable {judges : List JudgeKind}

theorem EvaluationConfig.default_valid (h : judges ≠ []) :
    ({ default with judges } : EvaluationConfig α).Valid where
  maxConcurrency := by simp [EvaluationConfig.default]
  callTimeoutMs := by simp [EvaluationConfig.default]
  backoff := by simp [EvaluationConfig.default]
  invalidFractionThreshold := isWithin_literal (by norm_num) (by norm_num)
  judges := h
  judgeWeights judge _ := by cases judge <;> exact isPositive_literal (by norm_num)

theorem SearchConfig.default_valid (h : judges ≠ []) :
    ({ default with evaluation.judges := judges } : SearchConfig α).Valid where
  rounds := by simp [SearchConfig.default]
  expansionsPerRound := by simp [SearchConfig.default]
  patience := by simp [SearchConfig.default]
  initialToolCount := by simp [SearchConfig.default]
  maxChildren := by simp [SearchConfig.default]
  toolRemovalMinObservations := by simp [SearchConfig.default]
  trainBudget := by simp [SearchConfig.default]
  validationBudget := by simp [SearchConfig.default]
  testBudget := by simp [SearchConfig.default]
  maxPromptCandidates := by simp [SearchConfig.default]
  minImprovement := isPositive_literal (by norm_num)
  explorationWeight := isNonNegative_literal (by norm_num)
  noveltyWeight := isNonNegative_literal (by norm_num)
  toolGainDecay := ⟨(literal_pos (by norm_num)).le, literal_lt_one (by norm_num)⟩
  lowScoreThreshold := isWithin_literal (by norm_num) (by norm_num)
  families := rfl
  objective := (ObjectiveWeights.validate_eq_ok_iff _).mpr ObjectiveWeights.default_valid
  evaluation := (EvaluationConfig.validate_eq_ok_iff _).mpr (EvaluationConfig.default_valid h)

end WorkflowSearch
