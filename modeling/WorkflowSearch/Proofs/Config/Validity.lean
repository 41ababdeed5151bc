import Mathlib.Tactic.Common
import Mathlib.Tactic.MkIffOfInductiveProp
import WorkflowSearch.Config.Validity
import WorkflowSearch.Proofs.Results

namespace WorkflowSearch

variable {α : Type} [Scalar α]

omit [Scalar α] in
@[simp]
theorem requireRange_eq_ok_iff (field : String) (holds : Bool) (detail : String) (u : Unit) :
    (requireRange field holds detail : Checked α Unit) = .ok u ↔ holds = true := by
  cases holds <;> simp [requireRange]

omit [Scalar α] in
@[simp]
theorem requireNonZero_eq_ok_iff (field : String) (n : ℕ) (u : Unit) :
    (requireNonZero field n : Checked α Unit) = .ok u ↔ n ≠ 0 := by
  simp [requireNonZero]

@[mk_iff]
structure ObjectiveWeights.Valid (w : ObjectiveWeights α) : Prop where
  confidence : Scalar.isNonNegative w.confidence = true
  latency : Scalar.isNonNegative w.latency = true
  cost : Scalar.isNonNegative w.cost = true
  complexity : Scalar.isNonNegative w.complexity = true
  uncertainty : Scalar.isNonNegative w.uncertainty = true
  generalization : Scalar.isNonNegative w.generalization = true
  latencyScaleMs : Scalar.isPositive w.latencyScaleMs = true
  tokenCostScale : Scalar.isPositive w.tokenCostScale = true

theorem ObjectiveWeights.validate_eq_ok_iff (w : ObjectiveWeights α) :
    w.validate = .ok () ↔ w.Valid := by
  rw [ObjectiveWeights.valid_iff]
  simp [validate, seq_eq_ok_iff]

@[mk_iff]
structure EvaluationConfig.Valid (c : EvaluationConfig α) : Prop where
  maxConcurrency : c.maxConcurrency ≠ 0
  callTimeoutMs : c.callTimeoutMs ≠ 0
  backoff : ¬ c.maxBackoffMs < c.initialBackoffMs
  invalidFractionThreshold : isWithin 0 1 c.invalidFractionThreshold = true
  judges : c.judges ≠ []
  judgeWeights : ∀ judge ∈ c.judges, Scalar.isPositive (c.judgeWeights.weight judge) = true

theorem EvaluationConfig.validate_eq_ok_iff (c : EvaluationConfig α) :
    c.validate = .ok () ↔ c.Valid := by
  rw [EvaluationConfig.valid_iff]
  by_cases hbackoff : c.maxBackoffMs < c.initialBackoffMs
  · simp [validate, seq_eq_ok_iff, hbackoff]
  by_cases hjudges : c.judges = []
  · simp [validate, seq_eq_ok_iff, hbackoff, hjudges]
  · simp [validate, seq_eq_ok_iff, hbackoff, hjudges, forM_eq_ok_iff]

@[mk_iff]
structure SearchConfig.Valid (c : SearchConfig α) : Prop where
  rounds : c.rounds ≠ 0
  expansionsPerRound : c.expansionsPerRound ≠ 0
  patience : c.patience ≠ 0
  initialToolCount : c.initialToolCount ≠ 0
  maxChildren : c.maxChildren ≠ 0
  toolRemovalMinObservations : c.toolRemovalMinObservations ≠ 0
  trainBudget : c.trainBudget ≠ 0
  validationBudget : c.validationBudget ≠ 0
  testBudget : c.testBudget ≠ 0
  maxPromptCandidates : 2 ≤ c.maxPromptCandidates ∧ c.maxPromptCandidates ≤ 8
  minImprovement : Scalar.isPositive c.minImprovement = true
  explorationWeight : Scalar.isNonNegative c.explorationWeight = true
  noveltyWeight : Scalar.isNonNegative c.noveltyWeight = true
  toolGainDecay : 0 ≤ c.toolGainDecay ∧ c.toolGainDecay < 1
  lowScoreThreshold : isWithin 0 1 c.lowScoreThreshold = true
  families : c.enablePromptMutation || c.enableToolMutation || c.enableTopologyMutation
  objective : c.objective.validate = .ok ()
  evaluation : c.evaluation.validate = .ok ()

theorem SearchConfig.validate_eq_ok_iff (c : SearchConfig α) : c.validate = .ok () ↔ c.Valid := by
  by_cases hfamilies : c.enablePromptMutation || c.enableToolMutation || c.enableTopologyMutation
  · simp only [validate, hfamilies, SearchConfig.valid_iff]
    simp [seq_eq_ok_iff]
  · refine iff_of_false (fun h ↦ ?_) fun h ↦ hfamilies h.families
    simp only [validate, hfamilies] at h
    simp [seq_eq_ok_iff] at h

theorem SplitRatios.validate_eq_ok_iff {r : SplitRatios α} :
    r.validate = .ok () ↔ [r.train, r.val, r.test].all Scalar.isPositive ∧
      ¬ (1e-6 : α) < Scalar.abs (Scalar.sum [r.train, r.val, r.test] - 1.0) := by
  unfold validate
  dsimp only
  split <;> simp_all

@[mk_iff]
structure DatasetConfig.Valid (c : DatasetConfig α) : Prop where
  minSize : c.minSize ≠ 0 ∧ c.minSize ≤ c.maxSize
  targetSize : c.minSize ≤ c.targetSize ∧ c.targetSize ≤ c.maxSize
  minPerSplit : c.minPerSplit ≠ 0
  splitRatios : c.splitRatios.validate = .ok ()
  hardNegativeRatio : isWithin 0 0.5 c.hardNegativeRatio = true

theorem DatasetConfig.validate_eq_ok_iff (c : DatasetConfig α) :
    c.validate = .ok () ↔ c.Valid := by
  rw [DatasetConfig.valid_iff]
  simp [validate, seq_eq_ok_iff]

theorem Config.valid_of_validate {c : Config α} (h : c.validate = .ok ()) :
    c.dataset.Valid ∧ c.search.Valid := by
  rw [← DatasetConfig.validate_eq_ok_iff, ← SearchConfig.validate_eq_ok_iff]
  by_cases hname : (Text.trim c.appName).isEmpty
  · simp [validate, hname, seq_eq_ok_iff] at h
  · simp only [validate, hname, Bool.false_eq_true, if_false] at h
    rw [seq_eq_ok_iff, seq_eq_ok_iff] at h
    exact ⟨h.1, h.2.1⟩

end WorkflowSearch
