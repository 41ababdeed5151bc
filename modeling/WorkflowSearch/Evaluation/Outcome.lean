import WorkflowSearch.Judge.Basic
import WorkflowSearch.Service.Basic

namespace WorkflowSearch

variable {α : Type}

structure Execution (α : Type) where
  caseId : String
  split : Split
  hardNegative : Bool
  question : String
  output : CaseOutput α
  votes : List (JudgeVote α)
  score : α
  confidence : α
  agreement : α
  rationale : String
  /-- Calls of the service, the successful one included. -/
  attempts : Nat

/-- Why a case has no score. -/
structure InvalidCase where
  caseId : String
  split : Split
  reason : String
  detail : String
  attempts : Nat

inductive CaseOutcome (α : Type) where
  | scored (execution : Execution α)
  | invalid (case : InvalidCase)

namespace CaseOutcome

def execution? : CaseOutcome α → Option (Execution α)
  | .scored execution => some execution
  | .invalid _ => none

def isInvalid : CaseOutcome α → Bool
  | .scored _ => false
  | .invalid _ => true

def caseId : CaseOutcome α → String
  | .scored execution => execution.caseId
  | .invalid case => case.caseId

def attempts : CaseOutcome α → Nat
  | .scored execution => execution.attempts
  | .invalid case => case.attempts

end CaseOutcome

end WorkflowSearch
