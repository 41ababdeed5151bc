import WorkflowSearch.Evaluation.Failure

namespace WorkflowSearch

variable {α : Type} [Scalar α]

namespace FailureCategory

def remedies : FailureCategory → List String
  | .executionGrounding => ["evidence", "grounded"]
  | .toolSelection => ["tool", "capability"]
  | .decomposition => ["step", "plan"]
  | .verifierMismatch => ["unknown", "verify"]
  | .other => ["evidence"]

def guidance : FailureCategory → String
  | .executionGrounding => "Ground every claim in executed evidence and surface runtime errors."
  | .toolSelection => "Bind a tool that serves the missing capability and prune noisy tools."
  | .decomposition => "Break the task into explicit steps before answering."
  | .verifierMismatch =>
    "Answer UNKNOWN when the schema cannot support the question and add reviewer checks."
  | .other => "Improve prompt grounding, prune noisy tools, and add reviewer checks."

end FailureCategory

structure Reflection where
  lowScoreCount : Nat
  categories : FailureHistogram
  dominant : Option FailureCategory
  abstentionFailures : Nat
  remedies : List String
  snippets : List String
  text : String

def Reflection.isStable (reflection : Reflection) : Bool :=
  reflection.lowScoreCount = 0

def stableText : String :=
  "stable candidate: keep the current constraints and evidence discipline"

def maxSnippets : Nat := 3

def Execution.snippet (execution : Execution α) : String :=
  execution.caseId ++ " score=" ++ Scalar.text2 execution.score ++ " reason=" ++
    execution.rationale

/-- Reflects on low-scoring cases; the text ends with the guidance for the most frequent category.
-/
def reflect (low : List (Execution α)) : Reflection :=
  let categories := tally FailureCategory.all (low.map (·.failure.1))
  let dominant := mostFrequent? categories
  let snippets := (low.take maxSnippets).map Execution.snippet
  { lowScoreCount := low.length
    categories
    dominant
    abstentionFailures := low.countP (·.hardNegative)
    remedies := (categories.flatMap (·.1.remedies)).eraseDups
    snippets
    text :=
      match dominant with
      | none => stableText
      | some category => " | ".intercalate (snippets ++ [category.guidance]) }

end WorkflowSearch
