import Mathlib.Algebra.Order.Field.Basic
import WorkflowSearch.Evaluation.Evaluator
import WorkflowSearch.Proofs.Config.Validity
import WorkflowSearch.Proofs.Judge.Range
import WorkflowSearch.Proofs.Service.Retry

namespace WorkflowSearch

def plainVotes {α : Type} (xs : List α) : List (JudgeVote α) :=
  xs.map (⟨.rule, ·, ""⟩)

def plainWeights {α : Type} [Scalar α] : JudgeWeights α :=
  ⟨1, 1, 1⟩

section Mean

variable {α : Type} [ExactScalar α] {xs : List α}

theorem weight_plainWeights (judge : JudgeKind) :
    (plainWeights : JudgeWeights α).weight judge = 1 := by
  cases judge <;> rfl

theorem plainWeights_pos :
    ∀ v ∈ plainVotes xs, 0 < (plainWeights : JudgeWeights α).weight v.judge :=
  fun v _ ↦ zero_lt_one.trans_eq (weight_plainWeights v.judge).symm

theorem mean_map_eq_weightedMean (hsome : xs ≠ []) (f : α → α) :
    mean (xs.map f) = Aggregate.weightedMean (plainVotes xs) plainWeights fun v ↦ f v.score := by
  have htotal : Aggregate.totalWeight (plainVotes xs) plainWeights = (xs.length : α) := by
    simp [Aggregate.totalWeight, ExactScalar.sum_eq_sum, weight_plainWeights, plainVotes,
      Function.comp_def]
  rw [Aggregate.weightedMean, htotal]
  simp [mean, hsome, weight_plainWeights, plainVotes, Function.comp_def]

theorem mean_nil : mean ([] : List α) = 0 :=
  rfl

theorem mean_between {lo hi : α} (hlo : lo ≤ 0) (hhi : 0 ≤ hi) (h : ∀ x ∈ xs, lo ≤ x ∧ x ≤ hi) :
    lo ≤ mean xs ∧ mean xs ≤ hi := by
  obtain rfl | hsome := eq_or_ne xs []
  · exact ⟨hlo, hhi⟩
  · have hmean := mean_map_eq_weightedMean hsome id
    rw [List.map_id] at hmean
    rw [hmean]
    refine Aggregate.weightedMean_between (by simpa [plainVotes] using hsome) plainWeights_pos ?_
    exact List.forall_mem_map.mpr h

theorem mean_nonneg (h : ∀ x ∈ xs, 0 ≤ x) : 0 ≤ mean xs := by
  unfold mean
  split
  · exact le_rfl
  · rw [ExactScalar.sum_eq_sum]
    exact div_nonneg (List.sum_nonneg h) (Nat.cast_nonneg _)

theorem mean_square_bounds (h : ∀ x ∈ xs, 0 ≤ x ∧ x ≤ 1) :
    0 ≤ mean (xs.map fun x ↦ Scalar.square (x - mean xs)) ∧
      mean (xs.map fun x ↦ Scalar.square (x - mean xs)) ≤ 1 / 4 := by
  obtain rfl | hsome := eq_or_ne xs []
  · rw [List.map_nil, mean_nil]
    norm_num
  · have hvotes : plainVotes xs ≠ [] := by simpa [plainVotes] using hsome
    have hmean := mean_map_eq_weightedMean hsome id
    rw [List.map_id] at hmean
    have hvariance : mean (xs.map fun x ↦ Scalar.square (x - mean xs)) =
        Aggregate.variance (plainVotes xs) plainWeights := by
      rw [mean_map_eq_weightedMean hsome, hmean]
      rfl
    rw [hvariance]
    exact ⟨Aggregate.variance_nonneg hvotes plainWeights_pos,
      Aggregate.variance_le hvotes plainWeights_pos (List.forall_mem_map.mpr h)⟩

end Mean

theorem deviation_bounds {α : Type} [RootedScalar α] {xs : List α}
    (h : ∀ x ∈ xs, 0 ≤ x ∧ x ≤ 1) :
    0 ≤ deviation xs (mean xs) ∧ deviation xs (mean xs) ≤ 1 / 2 := by
  obtain ⟨hnonneg, hle⟩ := mean_square_bounds h
  have hquarter : (1 / 4 : α) = 1 / 2 * (1 / 2) := by norm_num
  exact ⟨RootedScalar.sqrt_nonneg _, RootedScalar.sqrt_le_of_le_mul_self hnonneg
    one_half_pos.le (hle.trans_eq hquarter)⟩

section Objective

variable {α : Type} [ExactScalar α]

theorem uncertainty_eq {agreement spread : α} (hagreement : 0 ≤ agreement ∧ agreement ≤ 1)
    (hspread : 0 ≤ spread) : uncertainty agreement spread = (1 - agreement) + spread := by
  rw [uncertainty, clamp_of_not_lt hagreement.1.not_gt hagreement.2.not_gt,
    ExactScalar.max_of_le hspread]

theorem uncertainty_nonneg (agreement spread : α) : 0 ≤ uncertainty agreement spread :=
  add_nonneg (sub_nonneg.mpr (ExactScalar.clamp_bounds agreement).2) (Scalar.le_max_right spread le_rfl)

theorem generalizationGap_nonneg (trainScore valScore : α) :
    0 ≤ generalizationGap trainScore valScore :=
  Scalar.le_max_right _ le_rfl

theorem Blueprint.complexity_nonneg (blueprint : Blueprint) : (0 : α) ≤ blueprint.complexity := by
  rw [complexity, ExactScalar.ofScientific_eq]
  exact div_nonneg (by positivity) (by norm_num)

namespace ObjectiveWeights

theorem Valid.objective_le {w : ObjectiveWeights α} (h : w.Valid) {i : ObjectiveInputs α}
    (hscore : i.meanScore ≤ 1) (hconfidence : i.meanConfidence ≤ 1) (hlatency : 0 ≤ i.meanLatencyMs)
    (hcost : 0 ≤ i.meanTokenCost) (hcomplexity : 0 ≤ i.complexity) :
    w.objective i ≤ 1 + w.confidence := by
  have hgain : w.confidence * i.meanConfidence ≤ w.confidence :=
    mul_le_of_le_one_right (ExactScalar.isNonNegative_iff.mp h.confidence) hconfidence
  have hslow : 0 ≤ w.latency * (i.meanLatencyMs / w.latencyScaleMs) :=
    mul_nonneg (ExactScalar.isNonNegative_iff.mp h.latency)
      (div_nonneg hlatency (ExactScalar.isPositive_iff.mp h.latencyScaleMs).le)
  have hcostly : 0 ≤ w.cost * (i.meanTokenCost / w.tokenCostScale) :=
    mul_nonneg (ExactScalar.isNonNegative_iff.mp h.cost)
      (div_nonneg hcost (ExactScalar.isPositive_iff.mp h.tokenCostScale).le)
  have hcomplex : 0 ≤ w.complexity * i.complexity :=
    mul_nonneg (ExactScalar.isNonNegative_iff.mp h.complexity) hcomplexity
  have huncertain : 0 ≤ w.uncertainty * WorkflowSearch.uncertainty i.meanAgreement i.scoreStd :=
    mul_nonneg (ExactScalar.isNonNegative_iff.mp h.uncertainty) (uncertainty_nonneg _ _)
  rw [objective]
  linarith

theorem Valid.selectionScore_le {w : ObjectiveWeights α} (h : w.Valid)
    (valObjective trainScore valScore : α) :
    w.selectionScore valObjective trainScore valScore ≤ valObjective :=
  sub_le_self _ (mul_nonneg (ExactScalar.isNonNegative_iff.mp h.generalization)
    (generalizationGap_nonneg _ _))

end ObjectiveWeights

end Objective

structure Execution.InRange {α : Type} [Scalar α] (execution : Execution α) : Prop where
  score : 0 ≤ execution.score ∧ execution.score ≤ 1
  confidence : 0 ≤ execution.confidence ∧ execution.confidence ≤ 1
  agreement : 0 ≤ execution.agreement ∧ execution.agreement ≤ 1
  latencyMs : 0 ≤ execution.output.latencyMs
  tokenCost : 0 ≤ execution.output.tokenCost

theorem Evaluator.of_ofConfig {α : Type} [Scalar α] {service : Service α} {source : JudgeSource α}
    {config : SearchConfig α} {evaluator : Evaluator α}
    (h : ofConfig service source config = .ok evaluator) :
    evaluator.objective = config.objective ∧
      Ensemble.ofConfig source config.evaluation = .ok evaluator.ensemble := by
  obtain ⟨ensemble, hensemble, h⟩ := bind_eq_ok_iff.mp h
  obtain rfl := Except.ok.inj h
  exact ⟨rfl, hensemble⟩

section Executions

variable {α : Type} [RootedScalar α]

theorem CaseOutput.nonneg_of_checked {reply output : CaseOutput α}
    (h : reply.checked = .ok output) :
    0 ≤ output.latencyMs ∧ 0 ≤ output.tokenCost := by
  unfold checked at h
  split at h
  · next hvalid =>
    obtain rfl := Except.ok.inj h
    simpa [ExactScalar.isNonNegative_iff] using hvalid
  · cases h

namespace Evaluator

variable {evaluator : Evaluator α} {blueprint : Blueprint}

theorem output_nonneg_of_retried {case : Case} {history : History} {output : CaseOutput α}
    (h : (evaluator.retried blueprint case history).result = .ok output) :
    0 ≤ output.latencyMs ∧ 0 ≤ output.tokenCost := by
  obtain ⟨number, hattempt⟩ := retryFrom_eq_ok h
  unfold attempt at hattempt
  dsimp only at hattempt
  split at hattempt
  · cases hattempt
  · obtain ⟨reply, -, hchecked⟩ := bind_eq_ok_iff.mp hattempt
    exact CaseOutput.nonneg_of_checked hchecked

theorem evaluateCase_inRange (hsound : evaluator.ensemble.Sound) {case : Case} {history : History}
    {execution : Execution α}
    (h : (evaluator.evaluateCase blueprint case history).1.outcome.execution? = some execution) :
    execution.InRange := by
  unfold evaluateCase outcome at h
  dsimp only at h
  split at h
  · cases h
  · next output hretried =>
    split at h
    · cases h
    · next verdict hverdict =>
      obtain rfl := Option.some.inj h
      obtain ⟨hscore, hagreement, hconfidence⟩ := hsound.verdict_inRange hverdict
      obtain ⟨hlatency, hcost⟩ := output_nonneg_of_retried hretried
      exact ⟨hscore, hconfidence, hagreement, hlatency, hcost⟩

theorem runCases_inRange (hsound : evaluator.ensemble.Sound) {cases : List Case}
    {history : History} :
    ∀ execution ∈ ((evaluator.runCases blueprint cases history).1.map (·.outcome)).filterMap
      CaseOutcome.execution?, execution.InRange := by
  induction cases generalizing history with
  | nil => exact List.forall_mem_nil _
  | cons case cases ih =>
    intro execution h
    rw [runCases, List.map_cons, List.filterMap_cons] at h
    split at h
    · exact ih execution h
    · next first hfirst =>
      obtain rfl | hrest := List.mem_cons.mp h
      · exact evaluateCase_inRange hsound hfirst
      · exact ih execution hrest

end Evaluator

/-- The means of a summary lie in the ranges of what they are means of; the spread of the scores is
a half at most, and uncertainty is what agreement lacks and the spread, without any clamping. -/
structure Summary.InRange (summary : Summary α) : Prop where
  meanScore : 0 ≤ summary.meanScore ∧ summary.meanScore ≤ 1
  meanAgreement : 0 ≤ summary.meanAgreement ∧ summary.meanAgreement ≤ 1
  meanConfidence : 0 ≤ summary.meanConfidence ∧ summary.meanConfidence ≤ 1
  scoreStd : 0 ≤ summary.scoreStd ∧ summary.scoreStd ≤ 1 / 2
  uncertainty : 0 ≤ summary.uncertainty ∧ summary.uncertainty ≤ 3 / 2
  uncertainty_eq : summary.uncertainty = (1 - summary.meanAgreement) + summary.scoreStd
  meanLatencyMs : 0 ≤ summary.meanLatencyMs
  meanTokenCost : 0 ≤ summary.meanTokenCost

theorem summarize_inRange {outcomes : List (CaseOutcome α)}
    (h : ∀ execution ∈ outcomes.filterMap CaseOutcome.execution?, execution.InRange)
    (blueprint : Blueprint) (split : Split) (weights : ObjectiveWeights α)
    (invalidFractionThreshold lowScoreThreshold : α) :
    (summarize blueprint split outcomes weights invalidFractionThreshold
      lowScoreThreshold).InRange := by
  have hscores : ∀ x ∈ (outcomes.filterMap CaseOutcome.execution?).map (·.score), 0 ≤ x ∧ x ≤ 1 :=
    List.forall_mem_map.mpr fun execution hmem ↦ (h execution hmem).score
  have hagreement := mean_between le_rfl zero_le_one
    (List.forall_mem_map.mpr fun execution hmem ↦ (h execution hmem).agreement)
  have hspread := deviation_bounds hscores
  have huncertainty := uncertainty_eq hagreement hspread.1
  refine
    { meanScore := mean_between le_rfl zero_le_one hscores
      meanAgreement := hagreement
      meanConfidence := mean_between le_rfl zero_le_one
        (List.forall_mem_map.mpr fun execution hmem ↦ (h execution hmem).confidence)
      scoreStd := hspread
      uncertainty := ?_
      uncertainty_eq := huncertainty
      meanLatencyMs := mean_nonneg
        (List.forall_mem_map.mpr fun execution hmem ↦ (h execution hmem).latencyMs)
      meanTokenCost := mean_nonneg
        (List.forall_mem_map.mpr fun execution hmem ↦ (h execution hmem).tokenCost) }
  change 0 ≤ uncertainty _ _ ∧ uncertainty _ _ ≤ 3 / 2
  rw [huncertainty]
  obtain ⟨hlow, hhigh⟩ := hagreement
  obtain ⟨hnonneg, hhalf⟩ := hspread
  constructor <;> linarith

theorem Summary.InRange.objective_le {outcomes : List (CaseOutcome α)} {blueprint : Blueprint}
    {split : Split} {weights : ObjectiveWeights α} {invalidFractionThreshold lowScoreThreshold : α}
    (hweights : weights.Valid)
    (h : (summarize blueprint split outcomes weights invalidFractionThreshold
      lowScoreThreshold).InRange) :
    (summarize blueprint split outcomes weights invalidFractionThreshold
      lowScoreThreshold).objective ≤ 1 + weights.confidence :=
  hweights.objective_le h.meanScore.2 h.meanConfidence.2 h.meanLatencyMs h.meanTokenCost
    blueprint.complexity_nonneg

namespace Evaluator

variable {evaluator : Evaluator α}

theorem evaluateCases_inRange (hsound : evaluator.ensemble.Sound) (blueprint : Blueprint)
    (cases : List Case) (split : Split) (history : History) :
    (evaluator.evaluateCases blueprint cases split history).1.InRange :=
  summarize_inRange (runCases_inRange hsound) _ _ _ _ _

theorem evaluateCases_objective_le (hsound : evaluator.ensemble.Sound)
    (hweights : evaluator.objective.Valid) (blueprint : Blueprint) (cases : List Case)
    (split : Split) (history : History) :
    (evaluator.evaluateCases blueprint cases split history).1.objective ≤
      1 + evaluator.objective.confidence :=
  (evaluateCases_inRange hsound blueprint cases split history).objective_le hweights

theorem sound_of_ofConfig {service : Service α} {source : JudgeSource α} {config : SearchConfig α}
    (hconfig : config.Valid) (hsource : source.Sound)
    (h : ofConfig service source config = .ok evaluator) : evaluator.ensemble.Sound := by
  have hevaluation := (EvaluationConfig.validate_eq_ok_iff _).mp hconfig.evaluation
  obtain ⟨hweights, hjudges⟩ := Ensemble.of_ofConfig (of_ofConfig h).2
  constructor
  · intro judge hjudge
    obtain ⟨kind, -, hmade⟩ := hjudges judge hjudge
    exact (hsource _ _ _ hmade).2
  · intro judge hjudge
    obtain ⟨kind, hkind, hmade⟩ := hjudges judge hjudge
    rw [hweights, (hsource _ _ _ hmade).1]
    exact ExactScalar.isPositive_iff.mp (hevaluation.judgeWeights kind hkind)

end Evaluator

end Executions

end WorkflowSearch
