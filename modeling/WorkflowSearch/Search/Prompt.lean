import WorkflowSearch.Evaluation.Reflection
import WorkflowSearch.Text.Numbered

namespace WorkflowSearch

variable {α : Type} [Scalar α]

/-- Where the sections of a prompt begin. -/
def sectionMarker : List Char :=
  ['\n', '\n', '[']

def learnedSections (prompt : String) : String :=
  .ofList ((Text.findFrom? sectionMarker prompt.toList).getD [])

/-- The trimmed text before the sections. -/
def basePrompt (prompt : String) : String :=
  let learned := (learnedSections prompt).toList
  .ofList (Text.trimChars (prompt.toList.take (prompt.toList.length - learned.length)))

inductive RevisionStrategy where
  | refinedConstraints
  | taskIntent
  | safetyChecks
  | failureRecovery
  | unchanged
  deriving DecidableEq

namespace RevisionStrategy

def name : RevisionStrategy → String
  | .refinedConstraints => "refined_constraints"
  | .taskIntent => "task_intent"
  | .safetyChecks => "safety_checks"
  | .failureRecovery => "failure_recovery"
  | .unchanged => "unchanged"

def drafting : List RevisionStrategy :=
  [.refinedConstraints, .taskIntent, .safetyChecks, .failureRecovery]

def draftedSection (reflection : Reflection) (task : String) : RevisionStrategy → String
  | .refinedConstraints =>
    let failure := if reflection.isStable then "no explicit failure" else reflection.text
    "\n\n[Refined Constraints]\n- Use graph-tool evidence for every claim.\n" ++
      "- State unknown instead of hallucinating.\n- Prior failure pattern: " ++ failure ++ "."
  | .taskIntent =>
    "\n\n[Task Intent]\n" ++ task ++
      "\n[Output Discipline]\n1) Answer\n2) Evidence\n3) Assumptions"
  | .safetyChecks =>
    "\n\n[Safety Checks]\n- Validate schema alignment before answering.\n" ++
      "- If tools disagree, explain the discrepancy and choose the conservative output."
  | .failureRecovery =>
    "\n\n[Failure Recovery]\n- If a tool call fails, retry with a fallback query plan.\n" ++
      "- Summarize the fallback and your confidence in the final answer."
  | .unchanged => ""

end RevisionStrategy

structure PromptCandidate where
  strategy : RevisionStrategy
  prompt : String

/-- Keeps the candidates whose collapsed text is new, and no more than `room`. -/
def keepDistinct (seen : List String) : (room : Nat) → List PromptCandidate → List PromptCandidate
  | 0, _ => []
  | _, [] => []
  | room + 1, candidate :: rest =>
    let key := Text.collapse candidate.prompt
    if seen.contains key then keepDistinct seen (room + 1) rest
    else candidate :: keepDistinct (key :: seen) room rest

def promptDrafts (prompt : String) (reflection : Reflection) (task : String) :
    List PromptCandidate :=
  let base := basePrompt prompt
  RevisionStrategy.drafting.map fun strategy =>
    { strategy, prompt := base ++ strategy.draftedSection reflection task }

/-- Distinct revisions of a prompt that differ from it, up to `limit`, which counts as two at least.
-/
def promptCandidates (limit : Nat) (prompt : String) (reflection : Reflection) (task : String) :
    List PromptCandidate :=
  keepDistinct [Text.collapse prompt] (max limit 2) (promptDrafts prompt reflection task)

/-- The quality of a prompt, from zero to one: it rises with mentions of evidence, of the unknown
and of a fallback and with the share of the keywords it covers, and falls with its length. -/
def promptScore (prompt : String) (keywords : List String) : α :=
  let text := Text.lowercase prompt
  let mention (score : α) (term : String) (credit : α) : α :=
    if Text.contains text term then score + credit else score
  let score := mention (mention (mention 0.5 "evidence" 0.15) "unknown" 0.1) "fallback" 0.05
  let score :=
    if keywords.isEmpty then score
    else
      score + 0.2 * (keywords.countP (Text.contains text) : α) / (keywords.length : α)
  Scalar.clamp 0 1 (score - Scalar.min ((prompt.utf8ByteSize : α) / 6000.0) 0.12)

structure PromptVariant (α : Type) where
  id : String
  blueprintId : String
  operator : String
  strategy : RevisionStrategy
  prompt : String
  score : α
  /-- The terms that the score was computed against. -/
  keywords : List String
  length : Nat
  selected : Bool

def variantId (recorded : Nat) : String :=
  Text.numbered "pv-" (recorded + 1)

/-- The index of the greatest number, the first of equals. -/
def firstMaximum : List α → Nat
  | [] => 0
  | first :: rest =>
    ((rest.zipIdx 1).foldl (fun best entry => if best.1 < entry.1 then entry else best)
      (first, 0)).2

structure RevisionRequest where
  blueprintId : String
  operator : String
  prompt : String
  reflection : Reflection
  task : String

namespace RevisionRequest

/-- The revisions to choose from; without any, the prompt itself. -/
def candidates (request : RevisionRequest) (limit : Nat) : List PromptCandidate :=
  match promptCandidates limit request.prompt request.reflection request.task with
  | [] => [⟨.unchanged, request.prompt⟩]
  | candidates => candidates

/-- The candidates as variants, the best one selected; their ids follow the recorded ones. -/
def variants (request : RevisionRequest) (limit recorded : Nat) : List (PromptVariant α) :=
  let keywords := request.reflection.remedies
  let scored := (request.candidates limit).map fun c => (c, promptScore c.prompt keywords)
  let best := firstMaximum (scored.map (·.2))
  scored.zipIdx.map fun ((candidate, score), index) =>
    { id := variantId (recorded + index)
      blueprintId := request.blueprintId
      operator := request.operator
      strategy := candidate.strategy
      prompt := candidate.prompt
      score
      keywords
      length := candidate.prompt.utf8ByteSize
      selected := index = best }

/-- The selected one of some variants, which have been recorded; without one, the prompt itself. -/
def choose (request : RevisionRequest) (recorded : Nat) (variants : List (PromptVariant α)) :
    PromptVariant α :=
  (variants.find? (·.selected)).getD
    { id := variantId recorded
      blueprintId := request.blueprintId
      operator := request.operator
      strategy := .unchanged
      prompt := request.prompt
      score := 0
      keywords := []
      length := request.prompt.utf8ByteSize
      selected := true }

end RevisionRequest

end WorkflowSearch
