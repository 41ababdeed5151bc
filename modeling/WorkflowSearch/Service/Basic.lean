import WorkflowSearch.Blueprint.Basic
import WorkflowSearch.Dataset.Basic

namespace WorkflowSearch

inductive ServiceError where
  | timeout (afterMs : Nat)
  | invocation (text : String)
  | malformedOutput (text : String)
  | circuitOpen (retryAfterMs : Nat)
  deriving DecidableEq

namespace ServiceError

def isRetryable : ServiceError → Bool
  | .malformedOutput _ => false
  | _ => true

def kind : ServiceError → String
  | .timeout _ => "timeout"
  | .invocation _ => "invocation"
  | .malformedOutput _ => "malformed_output"
  | .circuitOpen _ => "circuit_open"

def ofKind? (kind : String) (ms : Nat) (text : String) : Option ServiceError :=
  [.timeout ms, .invocation text, .malformedOutput text, .circuitOpen ms].find? (·.kind == kind)

def message : ServiceError → String
  | .timeout afterMs => "runtime call timed out after " ++ toString afterMs ++ "ms"
  | .invocation text => "runtime invocation failed: " ++ text
  | .malformedOutput text => "runtime returned malformed output: " ++ text
  | .circuitOpen retryAfterMs =>
    "runtime circuit open, retry after " ++ toString retryAfterMs ++ "ms"

end ServiceError

structure CaseOutput (α : Type) where
  rawOutput : String
  latencyMs : α
  tokenCost : α

inductive Call where
  | schema
  | catalog
  | execute (blueprint : Blueprint) (case : Case)
  deriving DecidableEq

def Call.isExecution : Call → Bool
  | .execute .. => true
  | _ => false

/-- The calls so far, the latest first. -/
abbrev History := List Call

structure Reply (α : Type) where
  delayMs : Nat
  result : Except ServiceError (CaseOutput α)

structure Service (α : Type) where
  schema : History → Except ServiceError Schema
  catalog : History → Except ServiceError (List Tool)
  execute : History → Blueprint → Case → Reply α

def History.executions (history : History) (caseId : String) : Nat :=
  history.countP fun
    | .execute _ c => c.id == caseId
    | _ => false

def History.executionCounts (history : History) : List (String × Nat) :=
  let ids := history.reverse.filterMap fun
    | .execute _ c => some c.id
    | _ => none
  ids.eraseDups.map fun id => (id, ids.count id)

end WorkflowSearch
