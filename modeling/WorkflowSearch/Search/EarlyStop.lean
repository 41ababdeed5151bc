import WorkflowSearch.Scalar.Basic

namespace WorkflowSearch

variable {α : Type} [Scalar α]

structure EarlyStopper (α : Type) where
  best : Option α
  stalled : Nat

namespace EarlyStopper

def initial : EarlyStopper α :=
  ⟨none, 0⟩

def observe (minImprovement roundBest : α) (stopper : EarlyStopper α) : EarlyStopper α :=
  match stopper.best with
  | none => { stopper with best := some roundBest }
  | some best =>
    if minImprovement ≤ roundBest - best then ⟨some roundBest, 0⟩
    else { stopper with stalled := stopper.stalled + 1 }

def shouldStop (patience : Nat) (stopper : EarlyStopper α) : Bool :=
  patience < stopper.stalled

end EarlyStopper

end WorkflowSearch
