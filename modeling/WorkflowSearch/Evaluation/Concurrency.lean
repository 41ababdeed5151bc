import WorkflowSearch.Evaluation.Evaluator

namespace WorkflowSearch

variable {α : Type} [Scalar α]

/-- When the last of the given tasks is done, if each starts at the first of the times at which
places become free, and keeps its place at least until `done`. -/
def doneAt (done : Nat) : (free : List Nat) → (durations : List Nat) → Nat
  | start :: free, duration :: durations =>
    let done := max done (start + duration)
    doneAt done (free ++ [done]) durations
  | _, _ => done

def concurrentTime (places : Nat) (durations : List Nat) : Nat :=
  doneAt 0 (List.replicate (min (max places 1) (max durations.length 1)) 0) durations

/-- Evaluates a blueprint on splits one after another; the last component is the time it takes. -/
def Evaluator.evaluateSplits (evaluator : Evaluator α) (blueprint : Blueprint)
    (dataset : Dataset α) : List Split → History → List (Split × Summary α) × History × Nat
  | [], history => ([], history, 0)
  | split :: splits, history =>
    let (runs, history) := evaluator.runCases blueprint (dataset.ofSplit split) history
    let elapsed := concurrentTime evaluator.config.maxConcurrency (runs.map (·.elapsedMs))
    let (summaries, history, rest) := evaluateSplits evaluator blueprint dataset splits history
    ((split, evaluator.summarizeRuns blueprint split runs) :: summaries, history, elapsed + rest)

end WorkflowSearch
