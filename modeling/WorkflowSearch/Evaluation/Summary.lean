import WorkflowSearch.Blueprint.Basic
import WorkflowSearch.Evaluation.Reflection
import WorkflowSearch.Objective

namespace WorkflowSearch

variable {α : Type} [Scalar α]

structure Summary (α : Type) where
  blueprintId : String
  split : Split
  caseCount : Nat
  invalidCount : Nat
  invalidFraction : α
  degraded : Bool
  meanScore : α
  scoreStd : α
  meanLatencyMs : α
  meanTokenCost : α
  meanConfidence : α
  meanAgreement : α
  complexity : α
  uncertainty : α
  objective : α
  failures : FailureHistogram
  reflection : String
  outcomes : List (CaseOutcome α)

/-- The mean of numbers added from left to right; zero of none. -/
def mean (xs : List α) : α :=
  if xs.isEmpty then 0 else Scalar.sum xs / (xs.length : α)

/-- The standard deviation of a whole population about its mean. -/
def deviation (xs : List α) (center : α) : α :=
  Scalar.sqrt (mean (xs.map fun x => Scalar.square (x - center)))

namespace Summary

def validCount (summary : Summary α) : Nat :=
  summary.caseCount - summary.invalidCount

def executions (summary : Summary α) : List (Execution α) :=
  summary.outcomes.filterMap CaseOutcome.execution?

def lowScoring (summary : Summary α) (threshold : α) : List (Execution α) :=
  summary.executions.filter (·.isLow threshold)

def objectiveInputs (summary : Summary α) : ObjectiveInputs α where
  meanScore := summary.meanScore
  scoreStd := summary.scoreStd
  meanConfidence := summary.meanConfidence
  meanAgreement := summary.meanAgreement
  meanLatencyMs := summary.meanLatencyMs
  meanTokenCost := summary.meanTokenCost
  complexity := summary.complexity

/-- The most frequent category of failures, the first of equals. -/
def dominantFailure? (summary : Summary α) : Option FailureCategory :=
  mostFrequent? (summary.failures.filter (0 < ·.2))

end Summary

def summarize (blueprint : Blueprint) (split : Split) (outcomes : List (CaseOutcome α))
    (weights : ObjectiveWeights α) (invalidFractionThreshold lowScoreThreshold : α) : Summary α :=
  let executions := outcomes.filterMap CaseOutcome.execution?
  let meanScore := mean (executions.map (·.score))
  let inputs : ObjectiveInputs α :=
    { meanScore
      scoreStd := deviation (executions.map (·.score)) meanScore
      meanConfidence := mean (executions.map (·.confidence))
      meanAgreement := mean (executions.map (·.agreement))
      meanLatencyMs := mean (executions.map (·.output.latencyMs))
      meanTokenCost := mean (executions.map (·.output.tokenCost))
      complexity := blueprint.complexity }
  let invalidCount := outcomes.countP CaseOutcome.isInvalid
  let invalidFraction : α := share invalidCount outcomes.length
  { blueprintId := blueprint.parts.id
    split
    caseCount := outcomes.length
    invalidCount
    invalidFraction
    degraded := decide (invalidFractionThreshold < invalidFraction)
    meanScore
    scoreStd := inputs.scoreStd
    meanLatencyMs := inputs.meanLatencyMs
    meanTokenCost := inputs.meanTokenCost
    meanConfidence := inputs.meanConfidence
    meanAgreement := inputs.meanAgreement
    complexity := inputs.complexity
    uncertainty := uncertainty inputs.meanAgreement inputs.scoreStd
    objective := weights.objective inputs
    failures := .ofSignals (failureSignals lowScoreThreshold executions)
    reflection := (reflect (executions.filter (·.isLow lowScoreThreshold))).text
    outcomes }

end WorkflowSearch
