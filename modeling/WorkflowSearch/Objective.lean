import WorkflowSearch.Scalar.Basic

namespace WorkflowSearch

variable {α : Type} [Scalar α]

structure ObjectiveWeights (α : Type) where
  confidence : α
  latency : α
  cost : α
  complexity : α
  uncertainty : α
  generalization : α
  latencyScaleMs : α
  tokenCostScale : α

structure ObjectiveInputs (α : Type) where
  meanScore : α
  scoreStd : α
  meanConfidence : α
  meanAgreement : α
  meanLatencyMs : α
  meanTokenCost : α
  complexity : α

/-- Disagreement of the judges and spread of the scores. -/
def uncertainty (meanAgreement scoreStd : α) : α :=
  (1 - Scalar.clamp 0 1 meanAgreement) + Scalar.max scoreStd 0

def generalizationGap (trainScore valScore : α) : α :=
  Scalar.max (trainScore - valScore) 0

namespace ObjectiveWeights

def default : ObjectiveWeights α where
  confidence := 0.1
  latency := 0.05
  cost := 0.05
  complexity := 0.02
  uncertainty := 0.08
  generalization := 0.2
  latencyScaleMs := 1000.0
  tokenCostScale := 1.0

/-- Score and confidence count for a candidate; latency, cost, complexity and uncertainty against
it. -/
def objective (w : ObjectiveWeights α) (i : ObjectiveInputs α) : α :=
  i.meanScore + w.confidence * i.meanConfidence
    - w.latency * (i.meanLatencyMs / w.latencyScaleMs)
    - w.cost * (i.meanTokenCost / w.tokenCostScale)
    - w.complexity * i.complexity
    - w.uncertainty * WorkflowSearch.uncertainty i.meanAgreement i.scoreStd

def selectionScore (w : ObjectiveWeights α) (valObjective trainScore valScore : α) : α :=
  valObjective - w.generalization * generalizationGap trainScore valScore

end ObjectiveWeights

end WorkflowSearch
