import WorkflowSearch.Mutation

namespace WorkflowSearch

inductive StopReason where
  | earlyStopped
  | budgetExhausted
  | cancelled
  deriving DecidableEq

def StopReason.name : StopReason → String
  | .earlyStopped => "early_stopped"
  | .budgetExhausted => "budget_exhausted"
  | .cancelled => "cancelled"

structure TraceEntry (α : Type) where
  /-- Counted from one. -/
  round : Nat
  /-- Counted from zero within the round. -/
  expansion : Nat
  selectedNode : Nat
  selectedBlueprint : String
  childNode : Nat
  childBlueprint : String
  mutation : Mutation
  trainObjective : α
  valObjective : α
  selectionScore : α
  bestTrainObjective : α
  bestSelectionScore : α
  /-- The selection score less the best one before. -/
  improvement : α
  /-- What the child lacks to become the best. -/
  regret : α
  uncertainty : α
  generalizationGap : α
  becameBest : Bool

end WorkflowSearch
