import WorkflowSearch.Config.Basic

namespace WorkflowSearch

variable {α : Type} [Scalar α]

structure RetryPolicy (α : Type) where
  maxRetries : Nat
  initialDelayMs : Nat
  maxDelayMs : Nat
  multiplier : α

/-- An attempt number as an exponent: numbers from `2 ^ 31` on wrap to negative ones. -/
def attemptExponent (attempt : Nat) : Int :=
  Int.bmod attempt UInt32.size

def totalMs (times : List Nat) : Nat :=
  times.foldr (· + ·) 0

namespace RetryPolicy

def ofConfig (config : EvaluationConfig α) : RetryPolicy α where
  maxRetries := config.maxRetries
  initialDelayMs := config.initialBackoffMs
  maxDelayMs := config.maxBackoffMs
  multiplier := 2.0

/-- The pause in milliseconds after a failed attempt, counted from zero: the initial delay times a
power of the multiplier, up to the greatest delay. -/
def delayMs (policy : RetryPolicy α) (attempt : Nat) : Nat :=
  if attempt = 0 then min policy.initialDelayMs policy.maxDelayMs
  else
    let factor := Scalar.pow policy.multiplier (attemptExponent attempt)
    let delay := (policy.initialDelayMs : α) * factor
    min (Scalar.floorNat (Scalar.min delay ((UInt64.size - 1 : Nat) : α))) policy.maxDelayMs

end RetryPolicy

structure Retried (ε β : Type) where
  result : Except ε β
  attempts : Nat
  pausesMs : List Nat

variable {ε β : Type}

def retryFrom (policy : RetryPolicy α) (retryable : ε → Bool) (operation : Nat → Except ε β) :
    (left attempt : Nat) → Retried ε β
  | 0, attempt => ⟨operation attempt, attempt + 1, []⟩
  | left + 1, attempt =>
    match operation attempt with
    | .ok b => ⟨.ok b, attempt + 1, []⟩
    | .error e =>
      if retryable e then
        let retried := retryFrom policy retryable operation left (attempt + 1)
        { retried with pausesMs := policy.delayMs attempt :: retried.pausesMs }
      else ⟨.error e, attempt + 1, []⟩

/-- Repeats an operation, which gets the number of its attempt, until it succeeds, fails for good,
or has no retries left. -/
def retry (policy : RetryPolicy α) (retryable : ε → Bool) (operation : Nat → Except ε β) :
    Retried ε β :=
  retryFrom policy retryable operation policy.maxRetries 0

end WorkflowSearch
