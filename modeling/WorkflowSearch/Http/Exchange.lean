import WorkflowSearch.Json.Basic

namespace WorkflowSearch.Http

structure Request where
  method : String
  url : String
  headers : List (String × String)
  body : Option Json

inductive Outcome where
  | response (status : Nat) (body : String)
  /-- The server got the request and closed the connection. -/
  | dropped
  /-- The server got the request and did not answer in time. -/
  | timedOut
  | unreachable
  deriving DecidableEq

def Outcome.isDelivered : Outcome → Bool
  | .unreachable => false
  | _ => true

/-- What happens to a request, which may depend on those that arrived before, the latest first. -/
abbrev Network := List Request → Request → Outcome

def Network.none : Network :=
  fun _ _ => .unreachable

def Request.failureText (request : Request) : String :=
  "error sending request for url (" ++ request.url ++ ")"

def trimSlashes (url : String) : String :=
  .ofList (url.toList.reverse.dropWhile (· = '/')).reverse

end WorkflowSearch.Http
