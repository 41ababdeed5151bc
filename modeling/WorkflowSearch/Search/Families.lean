import WorkflowSearch.Config.Basic
import WorkflowSearch.Evaluation.Failure
import WorkflowSearch.Random.Source

namespace WorkflowSearch

variable {α σ : Type}

def FailureCategory.implicatedFamily : FailureCategory → MutationFamily
  | .toolSelection => .tool
  | .decomposition | .verifierMismatch => .topology
  | .executionGrounding | .other => .prompt

def SearchConfig.families (config : SearchConfig α) (hasCatalog : Bool) : List MutationFamily :=
  MutationFamily.all.filter fun
    | .prompt => config.enablePromptMutation
    | .tool => config.enableToolMutation && hasCatalog
    | .topology => config.enableTopologyMutation

/-- Of `2 ^ 64` equally likely values, those that follow the failure: three fifths. -/
def failureThreshold : Nat :=
  11068046444225730560

def rotation? (families : List MutationFamily) (round expansion : Nat) : Option MutationFamily :=
  families[(round + expansion) % families.length]?

/-- The family of one expansion. Only a choice between the implicated family and the rotation draws
from the source. -/
def chooseFamily? [RandomSource σ] (families : List MutationFamily) (failureAware : Bool)
    (round expansion : Nat) (dominant : Option FailureCategory) (source : σ) :
    Option MutationFamily × σ :=
  let implicated? := dominant.map FailureCategory.implicatedFamily
  match implicated?.filter fun family => failureAware && families.contains family with
  | none => (rotation? families round expansion, source)
  | some family =>
    let (follow, source) := RandomSource.coin failureThreshold source
    (if follow then some family else rotation? families round expansion, source)

end WorkflowSearch
