import WorkflowSearch.Evaluation.Summary
import WorkflowSearch.Judge.Ensemble
import WorkflowSearch.Service.Retry

namespace WorkflowSearch

variable {α : Type} [Scalar α]

structure Evaluator (α : Type) where
  service : Service α
  ensemble : Ensemble α
  config : EvaluationConfig α
  objective : ObjectiveWeights α
  lowScoreThreshold : α

structure CaseRun (α : Type) where
  outcome : CaseOutcome α
  elapsedMs : Nat

/-- An output with a latency and a cost that can be averaged. -/
def CaseOutput.checked (output : CaseOutput α) : Except ServiceError (CaseOutput α) :=
  if Scalar.isNonNegative output.latencyMs && Scalar.isNonNegative output.tokenCost then .ok output
  else
    .error (.malformedOutput ("latency " ++ Scalar.text output.latencyMs ++ " / token cost " ++
      Scalar.text output.tokenCost ++ " must be finite and non-negative"))

def History.repeated (history : History) (call : Call) (times : Nat) : History :=
  List.replicate times call ++ history

def JudgeRequest.ofOutput (case : Case) (history : History) (output : CaseOutput α) :
    JudgeRequest where
  question := case.question
  expected := case.expected
  produced := output.rawOutput
  hardNegative := case.origin.hardNegative
  history

namespace Evaluator

variable (evaluator : Evaluator α) (blueprint : Blueprint)

def ofConfig (service : Service α) (source : JudgeSource α) (config : SearchConfig α) :
    Except (ConfigError α) (Evaluator α) := do
  let ensemble ← Ensemble.ofConfig source config.evaluation
  return { service, ensemble, config := config.evaluation, objective := config.objective,
           lowScoreThreshold := config.lowScoreThreshold }

def reply (case : Case) (history : History) (attempt : Nat) : Reply α :=
  evaluator.service.execute (history.repeated (.execute blueprint case) attempt) blueprint case

/-- One attempt: a reply that is too late is a timeout. -/
def attempt (case : Case) (history : History) (number : Nat) :
    Except ServiceError (CaseOutput α) := do
  let reply := evaluator.reply blueprint case history number
  if evaluator.config.callTimeoutMs < reply.delayMs then
    throw (.timeout evaluator.config.callTimeoutMs)
  (← reply.result).checked

def retried (case : Case) (history : History) : Retried ServiceError (CaseOutput α) :=
  retry (.ofConfig evaluator.config) ServiceError.isRetryable
    (evaluator.attempt blueprint case history)

/-- What the attempts on a case come to once they are judged, after the calls of a history. -/
def outcome (case : Case) (history : History) (retried : Retried ServiceError (CaseOutput α)) :
    CaseOutcome α :=
  let invalid (reason detail : String) : CaseOutcome α :=
    .invalid ⟨case.id, case.split, reason, detail, retried.attempts⟩
  match retried.result with
  | .error error => invalid error.kind error.message
  | .ok output =>
    match evaluator.ensemble.verdict (.ofOutput case history output) with
    | .error unavailable => invalid "judge_unavailable" unavailable.message
    | .ok verdict =>
      .scored
        { caseId := case.id
          split := case.split
          hardNegative := case.origin.hardNegative
          question := case.question
          output
          votes := verdict.votes
          score := verdict.aggregate.score
          confidence := verdict.aggregate.confidence
          agreement := verdict.aggregate.agreement
          rationale := verdict.rationale
          attempts := retried.attempts }

def elapsedMs (case : Case) (history : History) (retried : Retried ServiceError (CaseOutput α)) :
    Nat :=
  let delay (number : Nat) : Nat :=
    min (evaluator.reply blueprint case history number).delayMs evaluator.config.callTimeoutMs
  totalMs ((List.range retried.attempts).map delay) + totalMs retried.pausesMs

def evaluateCase (case : Case) (history : History) : CaseRun α × History :=
  let retried := evaluator.retried blueprint case history
  let after := history.repeated (.execute blueprint case) retried.attempts
  (⟨evaluator.outcome case after retried, evaluator.elapsedMs blueprint case history retried⟩,
    after)

def runCases : List Case → History → List (CaseRun α) × History
  | [], history => ([], history)
  | case :: cases, history =>
    let (run, history) := evaluator.evaluateCase blueprint case history
    let (runs, history) := runCases cases history
    (run :: runs, history)

def summarizeRuns (split : Split) (runs : List (CaseRun α)) : Summary α :=
  summarize blueprint split (runs.map (·.outcome)) evaluator.objective
    evaluator.config.invalidFractionThreshold evaluator.lowScoreThreshold

def evaluateCases (cases : List Case) (split : Split) (history : History) : Summary α × History :=
  let (runs, history) := evaluator.runCases blueprint cases history
  (evaluator.summarizeRuns blueprint split runs, history)

end Evaluator

end WorkflowSearch
