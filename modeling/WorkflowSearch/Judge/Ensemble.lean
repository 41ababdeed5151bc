import WorkflowSearch.Judge.Basic
import WorkflowSearch.Config.Validity

namespace WorkflowSearch

variable {α : Type} [Scalar α]

structure Aggregate (α : Type) where
  score : α
  agreement : α
  confidence : α

namespace Aggregate

def maxSpread : α :=
  0.5

section Mean

variable (votes : List (JudgeVote α)) (weights : JudgeWeights α)

def totalWeight : α :=
  Scalar.sum (votes.map fun v => weights.weight v.judge)

def weightedMean (measure : JudgeVote α → α) : α :=
  Scalar.sum (votes.map fun v => weights.weight v.judge * measure v) / totalWeight votes weights

def meanScore : α :=
  weightedMean votes weights (·.score)

/-- The weighted mean of the squared distances from the mean. -/
def variance : α :=
  let mean := meanScore votes weights
  weightedMean votes weights fun v => Scalar.square (v.score - mean)

end Mean

/-- The weighted mean of the votes; agreement falls with their spread, and is full for a single
vote. There is none without votes of positive total weight. -/
def ofVotes? (votes : List (JudgeVote α)) (weights : JudgeWeights α) : Option (Aggregate α) :=
  let total := totalWeight votes weights
  if votes.isEmpty ∨ total ≤ 0 ∨ !Scalar.isFinite total then none
  else
    let score := meanScore votes weights
    let agreement :=
      if votes.length = 1 then 1
      else Scalar.clamp 0 1 (1.0 - Scalar.sqrt (variance votes weights) / maxSpread)
    some ⟨score, agreement, 0.5 * score + 0.5 * agreement⟩

end Aggregate

structure Verdict (α : Type) where
  aggregate : Aggregate α
  rationale : String
  votes : List (JudgeVote α)

/-- No judge gave a vote that counts; the failures are listed in the order of the judges. -/
structure JudgeUnavailable where
  failures : List String

def JudgeUnavailable.message (unavailable : JudgeUnavailable) : String :=
  "all judges unavailable: " ++ "; ".intercalate unavailable.failures

structure Ensemble (α : Type) where
  judges : List (Judge α)
  weights : JudgeWeights α

abbrev JudgeSource (α : Type) :=
  JudgeKind → EvaluationConfig α → Except JudgeError (Judge α)

namespace Ensemble

def ofConfig (source : JudgeSource α) (config : EvaluationConfig α) :
    Except (ConfigError α) (Ensemble α) := do
  let judges ← config.judges.mapM fun kind =>
    match source kind config with
    | .ok judge => .ok judge
    | .error error => .error (.inconsistent ("judge " ++ kind.name ++ ": " ++ error.message))
  return ⟨judges, config.judgeWeights⟩

def votes (ensemble : Ensemble α) (request : JudgeRequest) : List (JudgeVote α) :=
  ensemble.judges.filterMap fun judge =>
    match judge.ask request with
    | .ok score => some ⟨judge.kind, score.value, score.rationale⟩
    | .error _ => none

def failures (ensemble : Ensemble α) (request : JudgeRequest) : List String :=
  ensemble.judges.filterMap fun judge =>
    match judge.ask request with
    | .ok _ => none
    | .error error => some (judge.kind.name ++ ": " ++ error.message)

def verdict (ensemble : Ensemble α) (request : JudgeRequest) :
    Except JudgeUnavailable (Verdict α) :=
  let votes := ensemble.votes request
  match Aggregate.ofVotes? votes ensemble.weights with
  | none => .error ⟨ensemble.failures request⟩
  | some aggregate =>
    let rationale := "; ".intercalate (votes.map fun v => v.judge.name ++ ": " ++ v.rationale)
    .ok ⟨aggregate, rationale, votes⟩

end Ensemble

end WorkflowSearch
