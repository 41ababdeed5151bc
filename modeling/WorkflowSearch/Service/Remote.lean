import WorkflowSearch.Blueprint.Document
import WorkflowSearch.Dataset.Json
import WorkflowSearch.Http.Exchange
import WorkflowSearch.Json.Parser
import WorkflowSearch.Service.Breaker

namespace WorkflowSearch

structure RemoteService where
  config : BackendConfig
  network : Http.Network

/-- The breaker, and the requests that arrived at the server, the latest first. -/
structure RemoteState where
  breaker : Breaker
  delivered : List Http.Request

def RemoteState.initial : RemoteState :=
  ⟨.initial, []⟩

namespace RemoteService

variable {β : Type}

def request (service : RemoteService) (method path : String) (body : Option Json) :
    Http.Request where
  method
  url := Http.trimSlashes service.config.baseUrl ++ "/" ++ path
  headers := match body with
    | some _ => [("content-type", "application/json")]
    | none => []
  body

def schemaRequest (service : RemoteService) : Http.Request :=
  service.request "GET" "schema" none

def catalogRequest (service : RemoteService) : Http.Request :=
  service.request "GET" "tools" none

def executionRequest (service : RemoteService) (blueprint : Blueprint) (case : Case) :
    Http.Request :=
  service.request "POST" "execute" <| some <|
    .obj [("workflow", blueprint.document),
      ("case", .obj [("id", .str case.id), ("question", .str case.question),
        ("intent", case.intent.toJson)])]

def readOutcome (service : RemoteService) (request : Http.Request) (decode : Json → Option β) :
    Http.Outcome → Except ServiceError β
  | .unreachable | .dropped => .error (.invocation request.failureText)
  | .timedOut => .error (.timeout service.config.requestTimeoutMs)
  | .response 200 body =>
    match (Json.parse? body).bind decode with
    | some b => .ok b
    | none => .error (.malformedOutput "error decoding response body")
  | .response status body =>
    .error (.invocation ("runtime returned " ++ toString status ++ ": " ++ body))

/-- Sends a request through the breaker; all responses but a readable one count as failures. -/
def send (service : RemoteService) (now : Nat) (request : Http.Request)
    (decode : Json → Option β) (state : RemoteState) : Except ServiceError β × RemoteState :=
  let config := BreakerConfig.ofBackend service.config
  let (admission, breaker) := state.breaker.arrive config now
  match admission.error? with
  | some error => (.error error, { state with breaker })
  | none =>
    let outcome := service.network state.delivered request
    let result := service.readOutcome request decode outcome
    let delivered := if outcome.isDelivered then request :: state.delivered else state.delivered
    (result, ⟨breaker.complete config now result.isOk, delivered⟩)

def fetchSchema (service : RemoteService) (now : Nat) (state : RemoteState) :
    Except ServiceError Schema × RemoteState :=
  service.send now service.schemaRequest Schema.ofJson? state

def fetchCatalog (service : RemoteService) (now : Nat) (state : RemoteState) :
    Except ServiceError (List Tool) × RemoteState :=
  service.send now service.catalogRequest (Json.asList? Tool.ofJson?) state

def caseOutputOfJson? : Json → Option (CaseOutput Double) :=
  Json.asRecord? do
    let rawOutput ← .required "output" Json.asStr?
    let latencyMs ← .required "latency_ms" Json.asDouble?
    let tokenCost ← .required "token_cost" Json.asDouble?
    return ⟨rawOutput, latencyMs, tokenCost⟩

def execute (service : RemoteService) (now : Nat) (blueprint : Blueprint) (case : Case)
    (state : RemoteState) : Except ServiceError (CaseOutput Double) × RemoteState :=
  let (result, state) :=
    service.send now (service.executionRequest blueprint case) caseOutputOfJson? state
  match result with
  | .ok output =>
    if output.latencyMs.isFinite && output.tokenCost.isFinite then (.ok output, state)
    else (.error (.malformedOutput "non-finite latency or token cost"), state)
  | .error error => (.error error, state)

def stateAfter (service : RemoteService) (history : History) : RemoteState :=
  history.foldr (fun call state =>
    match call with
    | .schema => (service.fetchSchema 0 state).2
    | .catalog => (service.fetchCatalog 0 state).2
    | .execute blueprint case => (service.execute 0 blueprint case state).2) .initial

def toService (service : RemoteService) : Service Double where
  schema history := (service.fetchSchema 0 (service.stateAfter history)).1
  catalog history := (service.fetchCatalog 0 (service.stateAfter history)).1
  execute history blueprint case :=
    ⟨0, (service.execute 0 blueprint case (service.stateAfter history)).1⟩

end RemoteService

end WorkflowSearch
