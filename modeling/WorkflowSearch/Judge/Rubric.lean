import WorkflowSearch.Http.Exchange
import WorkflowSearch.Json.Decode
import WorkflowSearch.Json.Parser
import WorkflowSearch.Judge.Ensemble
import WorkflowSearch.Judge.Lexical

namespace WorkflowSearch

variable {α : Type} [Scalar α]

namespace Rubric

def instructions : String :=
  "You are a strict evaluator of graph-analysis answers. Score factual correctness, " ++
  "graph-domain precision, and task completion. An answer to an unanswerable question must " ++
  "abstain. Reply with JSON only: " ++
  "\x7b\"score\": <0..1>, \"rationale\": \"<one sentence>\"\x7d"

def questionText (request : JudgeRequest) : String :=
  "Question: " ++ request.question ++ "\nExpected: " ++ request.expected ++ "\nPrediction: " ++
    request.produced ++ "\nUnanswerable by construction: " ++
    (if request.hardNegative then "true" else "false")

/-- The text from the first opening brace to the last closing one behind it. -/
def verdictText? (reply : List Char) : Option (List Char) :=
  let start := reply.dropWhile (· ≠ '\x7b')
  let text := (start.reverse.dropWhile (· ≠ '\x7d')).reverse
  if text.isEmpty then none else some text

/-- The verdict in a reply, read by a decoder that returns a score and a reason or says what is
wrong. -/
def readVerdict (decode : String → Except String (α × String)) (reply : String) :
    Except JudgeError (Score α) :=
  match verdictText? reply.toList with
  | none =>
    .error (.unreadableReply
      ("no JSON object in reply: " ++ .ofList (reply.toList.take 120)))
  | some text =>
    match decode (.ofList text) with
    | .error detail => .error (.unreadableReply detail)
    | .ok (score, rationale) =>
      if Scalar.isFinite score then .ok (.clamped score rationale)
      else .error (.unreadableReply "score is not a finite number")

def decodeVerdict (text : String) : Except String (Double × String) :=
  let read : Json.RecordReader (Double × String) := do
    let score ← .required "score" Json.asDouble?
    let rationale ← .defaulted "rationale" "" Json.asStr?
    return (score, rationale)
  match (Json.parse? text).bind (Json.asRecord? read) with
  | some verdict => .ok verdict
  | none => .error "error decoding verdict"

def blockText? : Json → Option String :=
  Json.asRecord? do
    match ← .required "type" Json.asStr? with
    | "text" => .required "text" Json.asStr?
    | _ => return ""

def replyText? (body : String) : Option String := do
  let blocks ← (Json.parse? body).bind
    (Json.asRecord? (.required "content" (Json.asList? blockText?)))
  return String.join blocks

def httpRequest (config : RubricConfig) (apiKey : String) (request : JudgeRequest) :
    Http.Request where
  method := "POST"
  url := Http.trimSlashes config.baseUrl ++ "/v1/messages"
  headers := [("x-api-key", apiKey), ("anthropic-version", "2023-06-01"),
    ("content-type", "application/json")]
  body := some (.obj [("model", .str config.model), ("max_tokens", .nat config.maxTokens),
    ("system", .str instructions),
    ("messages", .arr [.obj [("role", .str "user"), ("content", .str (questionText request))]])])

def readOutcome (request : Http.Request) (timeoutMs : Nat) :
    Http.Outcome → Except JudgeError (Score Double)
  | .unreachable | .dropped => .error (.requestFailed request.failureText)
  | .timedOut => .error (.timeout timeoutMs)
  | .response 200 body =>
    match replyText? body with
    | some reply => readVerdict decodeVerdict reply
    | none => .error (.unreadableReply "error decoding response body")
  | .response 429 _ => .error .rateLimited
  | .response 401 _ => .error .unauthorized
  | .response status body => .error (.api status body)

end Rubric

def judgesOver (network : Http.Network) : JudgeSource Double
  | .rule, _ => .ok .rule
  | .heuristic, _ => .ok .heuristic
  | .rubric, config =>
    match config.rubric.apiKey with
    | none => .error .missingApiKey
    | some key =>
      .ok ⟨.rubric, fun question =>
        let request := Rubric.httpRequest config.rubric key question
        Rubric.readOutcome request config.callTimeoutMs (network [] request)⟩

end WorkflowSearch
