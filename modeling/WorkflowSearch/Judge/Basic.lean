import WorkflowSearch.Config.Basic
import WorkflowSearch.Service.Basic
import WorkflowSearch.Text.Blank
import WorkflowSearch.Text.Lowercase

namespace WorkflowSearch

variable {α : Type} [Scalar α]

structure JudgeRequest where
  question : String
  expected : String
  produced : String
  hardNegative : Bool
  /-- The calls of the service by then; a judge need not answer the same question alike twice. -/
  history : History := []

def JudgeRequest.expectsAbstention (request : JudgeRequest) : Bool :=
  request.hardNegative || Text.lowerAscii (Text.trim request.expected) == "unknown"

structure Score (α : Type) where
  value : α
  rationale : String

/-- Puts a value outside the range at the nearer end. -/
def Score.clamped (value : α) (rationale : String) : Score α :=
  ⟨Scalar.clamp 0 1 value, rationale⟩

inductive JudgeError where
  | missingApiKey
  | requestFailed (detail : String)
  | unreadableReply (detail : String)
  | rateLimited
  | unauthorized
  | api (status : Nat) (body : String)
  | timeout (afterMs : Nat)

def JudgeError.kind : JudgeError → String
  | .missingApiKey => "MissingApiKey"
  | .requestFailed _ => "RequestFailed"
  | .unreadableReply _ => "ResponseParseFailed"
  | .rateLimited => "RateLimited"
  | .unauthorized => "Unauthorized"
  | .api .. => "Api"
  | .timeout _ => "Timeout"

def JudgeError.message : JudgeError → String
  | .missingApiKey => "Missing API key for the rubric judge"
  | .requestFailed detail => "Request failed: " ++ detail
  | .unreadableReply detail => "Response parsing failed: " ++ detail
  | .rateLimited => "Rate limited - too many requests"
  | .unauthorized => "Unauthorized - invalid API key"
  | .api status body => "API error (status " ++ toString status ++ "): " ++ body
  | .timeout afterMs => "Judge timed out after " ++ toString afterMs ++ "ms"

structure Judge (α : Type) where
  kind : JudgeKind
  ask : JudgeRequest → Except JudgeError (Score α)

structure JudgeVote (α : Type) where
  judge : JudgeKind
  score : α
  rationale : String

end WorkflowSearch
