import WorkflowSearch.Config.Basic
import WorkflowSearch.Service.Basic

namespace WorkflowSearch

structure BreakerConfig where
  failureThreshold : Nat
  resetMs : Nat
  successThreshold : Nat

namespace BreakerConfig

def default : BreakerConfig :=
  ⟨5, 30000, 1⟩

def ofBackend (config : BackendConfig) : BreakerConfig :=
  { default with
    failureThreshold := config.circuitFailureThreshold
    resetMs := config.circuitResetMs }

def resetTime (config : BreakerConfig) : Nat :=
  config.resetMs * 1000

end BreakerConfig

inductive BreakerState where
  | closed
  | open
  | halfOpen
  deriving DecidableEq

namespace BreakerState

def name : BreakerState → String
  | .closed => "Closed"
  | .open => "Open"
  | .halfOpen => "HalfOpen"

def gauge : BreakerState → Nat
  | .closed => 0
  | .halfOpen => 1
  | .open => 2

end BreakerState

/-- Times are in microseconds. -/
structure Breaker where
  state : BreakerState
  failureCount : Nat
  successCount : Nat
  openedAt : Option Nat
  deriving DecidableEq

inductive Admission where
  | admitted
  | rejected (remaining : Nat)
  deriving DecidableEq

namespace Breaker

def initial : Breaker :=
  ⟨.closed, 0, 0, none⟩

/-- An open breaker rejects calls until the reset time has passed since it opened; the first call
after that turns it half-open. -/
def arrive (config : BreakerConfig) (now : Nat) (breaker : Breaker) : Admission × Breaker :=
  match breaker.state with
  | .open =>
    let elapsed := (breaker.openedAt.map (now - ·)).getD 0
    if config.resetTime ≤ elapsed then
      (.admitted, { breaker with state := .halfOpen, successCount := 0 })
    else (.rejected (config.resetTime - elapsed), breaker)
  | _ => (.admitted, breaker)

def succeed (config : BreakerConfig) (breaker : Breaker) : Breaker :=
  match breaker.state with
  | .halfOpen =>
    if config.successThreshold ≤ breaker.successCount + 1 then initial
    else { breaker with successCount := breaker.successCount + 1 }
  | _ => { breaker with failureCount := 0 }

def fail (config : BreakerConfig) (now : Nat) (breaker : Breaker) : Breaker :=
  match breaker.state with
  | .closed =>
    let failures := breaker.failureCount + 1
    if config.failureThreshold ≤ failures then
      { breaker with state := .open, failureCount := failures, openedAt := some now }
    else { breaker with failureCount := failures }
  | .halfOpen => { breaker with state := .open, openedAt := some now, successCount := 0 }
  | .open => { breaker with failureCount := breaker.failureCount + 1 }

def complete (config : BreakerConfig) (now : Nat) (success : Bool) (breaker : Breaker) : Breaker :=
  if success then breaker.succeed config else breaker.fail config now

end Breaker

/-- A call, and the calls through the same breaker that are made between its admission and its end.
-/
inductive BreakerCall where
  | call (succeeds : Bool) (inner : List BreakerCall)

inductive CallResult where
  | rejected
  | completed (success : Bool)
  deriving DecidableEq

mutual

def Breaker.make (config : BreakerConfig) (now : Nat) (breaker : Breaker) :
    BreakerCall → CallResult × Breaker
  | .call succeeds inner =>
    match breaker.arrive config now with
    | (.rejected _, breaker) => (.rejected, breaker)
    | (.admitted, breaker) =>
      (.completed succeeds, (breaker.makeAll config now inner).complete config now succeeds)

def Breaker.makeAll (config : BreakerConfig) (now : Nat) (breaker : Breaker) :
    List BreakerCall → Breaker
  | [] => breaker
  | call :: calls => (breaker.make config now call).2.makeAll config now calls

end

def Admission.error? : Admission → Option ServiceError
  | .admitted => none
  | .rejected remaining => some (.circuitOpen (remaining / 1000))

end WorkflowSearch
