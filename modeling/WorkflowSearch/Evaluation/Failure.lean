import WorkflowSearch.Evaluation.Outcome
import WorkflowSearch.Tally
import WorkflowSearch.Text.Tokens

namespace WorkflowSearch

variable {α : Type} [Scalar α]

inductive FailureCategory where
  | executionGrounding
  | toolSelection
  | decomposition
  | verifierMismatch
  | other
  deriving DecidableEq

namespace FailureCategory

def all : List FailureCategory :=
  [.executionGrounding, .toolSelection, .decomposition, .verifierMismatch, .other]

def name : FailureCategory → String
  | .executionGrounding => "execution_grounding"
  | .toolSelection => "tool_selection"
  | .decomposition => "decomposition"
  | .verifierMismatch => "verifier_mismatch"
  | .other => "other"

def keywords : FailureCategory → List String
  | .executionGrounding =>
    ["runtime error", "timeout", "timed out", "circuit open", "execution error", "exception",
      "query failed", "syntax error"]
  | .toolSelection =>
    ["missing tool", "wrong tool", "tool", "action", "executor", "schemagetter", "cypherexecutor",
      "pagerankexecutor"]
  | .decomposition =>
    ["decompose", "decomposition", "subtask", "multi step", "missing step", "planning",
      "workflow order", "reasoning chain"]
  | .verifierMismatch =>
    ["verifier", "expected", "mismatch", "not aligned", "format", "answer differs",
      "incorrect final answer"]
  | .other => []

end FailureCategory

inductive FailureSeverity where
  | mild
  | moderate
  | severe
  deriving DecidableEq

namespace FailureSeverity

def name : FailureSeverity → String
  | .mild => "mild"
  | .moderate => "moderate"
  | .severe => "severe"

def ofGap (gap : α) : FailureSeverity :=
  let gap := Scalar.max gap 0 + 1e-9
  if (0.4 : α) ≤ gap then .severe
  else if (0.2 : α) ≤ gap then .moderate
  else .mild

end FailureSeverity

structure FailureSignal where
  caseId : String
  category : FailureCategory
  severity : FailureSeverity
  keyword : String

namespace Execution

/-- The first category with a keyword in the answer or the rationale, and that keyword. -/
def failure (execution : Execution α) : FailureCategory × String :=
  let text := Text.normalize (execution.output.rawOutput ++ "\n" ++ execution.rationale)
  let found? := FailureCategory.all.findSome? fun category =>
    (category.keywords.find? (Text.containsPhrase text)).map (category, ·)
  found?.getD (.other, "no_keyword_match")

def isLow (threshold : α) (execution : Execution α) : Bool :=
  decide (execution.score < threshold)

def failureSignal (threshold : α) (execution : Execution α) : FailureSignal :=
  let (category, keyword) := execution.failure
  { caseId := execution.caseId
    category
    severity := .ofGap (threshold - execution.score)
    keyword }

end Execution

/-- A signal for each execution below the threshold. -/
def failureSignals (threshold : α) (executions : List (Execution α)) : List FailureSignal :=
  (executions.filter (·.isLow threshold)).map (·.failureSignal threshold)

abbrev FailureHistogram := List (FailureCategory × Nat)

def FailureHistogram.ofSignals (signals : List FailureSignal) : FailureHistogram :=
  tally FailureCategory.all (signals.map (·.category))

end WorkflowSearch
