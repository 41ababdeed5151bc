import WorkflowSearch.Judge.Basic
import WorkflowSearch.Text.Tokens

namespace WorkflowSearch

variable {α : Type} [Scalar α]

namespace JudgeRequest

def matchedWords (request : JudgeRequest) : Nat :=
  (Text.tokens request.expected).countP (Text.tokens request.produced).contains

/-- Full score for all expected words in the answer, and half of their share otherwise. -/
def ruleScore (request : JudgeRequest) : Score α :=
  let expected := Text.tokens request.expected
  let produced := Text.normalize request.produced
  if produced.isEmpty then .clamped 0 "empty output"
  else if request.expectsAbstention then
    if Text.abstains request.produced then .clamped 1 "abstained as expected"
    else .clamped 0 "expected an abstention but the answer asserts a result"
  else if produced = " ".intercalate expected then .clamped 1 "exact match"
  else if expected.isEmpty then .clamped 0 "no expected keywords"
  else
    let matched := request.matchedWords
    let wanted := expected.length
    if matched = wanted then .clamped 1 "all expected keywords present"
    else
      .clamped ((matched : α) / (wanted : α) * 0.5)
        (toString matched ++ "/" ++ toString wanted ++ " expected keywords present")

/-- The share of expected words in the answer; zero if none are expected. -/
def overlap (request : JudgeRequest) : α :=
  let wanted := (Text.tokens request.expected).length
  if wanted = 0 then 0 else (request.matchedWords : α) / (wanted : α)

def overlapScore (request : JudgeRequest) : Score α :=
  if (Text.tokens request.produced).isEmpty then .clamped 0 "empty output"
  else if request.expectsAbstention then
    if Text.abstains request.produced then .clamped 0.9 "declined an unanswerable question"
    else .clamped 0.1 "answered an unanswerable question; expected abstention"
  else
    let overlap : α := request.overlap
    .clamped overlap ("token overlap=" ++ Scalar.text2 overlap)

end JudgeRequest

namespace Judge

def rule : Judge α :=
  ⟨.rule, fun request => .ok request.ruleScore⟩

def heuristic : Judge α :=
  ⟨.heuristic, fun request => .ok request.overlapScore⟩

end Judge

end WorkflowSearch
