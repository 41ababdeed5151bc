import Mathlib.Algebra.BigOperators.Group.List.Basic
import Mathlib.Algebra.GroupWithZero.Nat
import Mathlib.Data.List.Forall2
import Mathlib.Tactic.Common
import WorkflowSearch.Evaluation.Evaluator
import WorkflowSearch.Proofs.Service.Retry

namespace WorkflowSearch

variable {α : Type}

/-- The calls behind the outcomes of some cases, the earliest first. -/
def executionCalls (blueprint : Blueprint) (cases : List Case) (outcomes : List (CaseOutcome α)) :
    List Call :=
  (cases.zip outcomes).flatMap fun (case, outcome) ↦
    List.replicate outcome.attempts (.execute blueprint case)

/-- One outcome for each case, in order, of at least one attempt and at most a limit. -/
def AttemptedWithin (limit : ℕ) : List Case → List (CaseOutcome α) → Prop :=
  List.Forall₂ fun case outcome ↦
    outcome.caseId = case.id ∧ 1 ≤ outcome.attempts ∧ outcome.attempts ≤ limit

def attemptsOn (caseId : String) (outcomes : List (CaseOutcome α)) : ℕ :=
  ((outcomes.filter (·.caseId == caseId)).map (·.attempts)).sum

theorem attemptsOn_cons (caseId : String) (outcome : CaseOutcome α)
    (outcomes : List (CaseOutcome α)) :
    attemptsOn caseId (outcome :: outcomes) =
      (if outcome.caseId = caseId then outcome.attempts else 0) + attemptsOn caseId outcomes := by
  unfold attemptsOn
  by_cases h : outcome.caseId = caseId
  · simp [h]
  · simp [h]

theorem exists_of_mem_executionCalls {blueprint : Blueprint} {cases : List Case}
    {outcomes : List (CaseOutcome α)} {call : Call}
    (h : call ∈ executionCalls blueprint cases outcomes) :
    ∃ case ∈ cases, call = .execute blueprint case := by
  obtain ⟨⟨case, outcome⟩, hpair, hcall⟩ := List.mem_flatMap.mp h
  exact ⟨case, (List.of_mem_zip hpair).1, List.eq_of_mem_replicate hcall⟩

namespace History

theorem executions_append (recent history : History) (caseId : String) :
    History.executions (recent ++ history) caseId =
      recent.executions caseId + history.executions caseId :=
  List.countP_append

theorem executions_reverse (history : History) (caseId : String) :
    History.executions history.reverse caseId = history.executions caseId :=
  List.countP_reverse

theorem executions_replicate (blueprint : Blueprint) (case : Case) (times : ℕ) (caseId : String) :
    History.executions (List.replicate times (.execute blueprint case)) caseId =
      if case.id = caseId then times else 0 := by
  rw [executions, List.countP_replicate]
  simp only [beq_iff_eq]

theorem executions_repeated (history : History) (blueprint : Blueprint) (case : Case)
    (times : ℕ) (caseId : String) :
    (history.repeated (.execute blueprint case) times).executions caseId =
      (if case.id = caseId then times else 0) + history.executions caseId := by
  rw [repeated, executions_append, executions_replicate]

end History

namespace AttemptedWithin

variable {limit : ℕ} {cases : List Case} {outcomes : List (CaseOutcome α)}

theorem map_caseId (h : AttemptedWithin limit cases outcomes) :
    outcomes.map (·.caseId) = cases.map (·.id) := by
  induction h with
  | nil => rfl
  | cons hfirst _ ih => rw [List.map_cons, List.map_cons, hfirst.1, ih]

theorem attempts_bounds (h : AttemptedWithin limit cases outcomes) :
    ∀ outcome ∈ outcomes, 1 ≤ outcome.attempts ∧ outcome.attempts ≤ limit := by
  induction h with
  | nil => simp
  | cons hfirst _ ih => exact List.forall_mem_cons.mpr ⟨hfirst.2, ih⟩

theorem executions_executionCalls (h : AttemptedWithin limit cases outcomes)
    (blueprint : Blueprint) (caseId : String) :
    History.executions (executionCalls blueprint cases outcomes) caseId =
      attemptsOn caseId outcomes := by
  induction h with
  | nil => rfl
  | @cons case outcome cases outcomes hfirst _ ih =>
    have hcalls : executionCalls blueprint (case :: cases) (outcome :: outcomes) =
        List.replicate outcome.attempts (.execute blueprint case) ++
          executionCalls blueprint cases outcomes := rfl
    rw [hcalls, History.executions_append, History.executions_replicate, ih, attemptsOn_cons,
      hfirst.1]

end AttemptedWithin

variable [Scalar α]

namespace Evaluator

variable (evaluator : Evaluator α) (blueprint : Blueprint)

theorem outcome_attempts (case : Case) (history : History)
    (retried : Retried ServiceError (CaseOutput α)) :
    (evaluator.outcome case history retried).attempts = retried.attempts := by
  unfold outcome
  split
  · rfl
  · split <;> rfl

theorem outcome_caseId (case : Case) (history : History)
    (retried : Retried ServiceError (CaseOutput α)) :
    (evaluator.outcome case history retried).caseId = case.id := by
  unfold outcome
  split
  · rfl
  · split <;> rfl

theorem retried_attempts (case : Case) (history : History) :
    1 ≤ (evaluator.retried blueprint case history).attempts ∧
      (evaluator.retried blueprint case history).attempts ≤ evaluator.config.maxRetries + 1 := by
  have h := retryFrom_attempts (.ofConfig evaluator.config) ServiceError.isRetryable
    (evaluator.attempt blueprint case history) evaluator.config.maxRetries 0
  rwa [Nat.zero_add, Nat.zero_add] at h

theorem evaluateCase_congr {e e' : Evaluator α} {blueprint : Blueprint} {case : Case}
    {history : History} (hconfig : e'.config = e.config)
    (hreply : ∀ number < (e.retried blueprint case history).attempts,
      e'.reply blueprint case history number = e.reply blueprint case history number)
    (hverdict : ∀ after (output : CaseOutput α),
      e'.ensemble.verdict (.ofOutput case after output) =
        e.ensemble.verdict (.ofOutput case after output)) :
    e'.evaluateCase blueprint case history = e.evaluateCase blueprint case history := by
  have hretried : e'.retried blueprint case history = e.retried blueprint case history := by
    rw [retried, retried, hconfig]
    refine retry_congr fun number hlt ↦ ?_
    rw [attempt, attempt, hreply number hlt, hconfig]
  have helapsed : e'.elapsedMs blueprint case history (e.retried blueprint case history) =
      e.elapsedMs blueprint case history (e.retried blueprint case history) := by
    unfold elapsedMs
    refine congrArg (totalMs · + _) (List.map_congr_left fun number hnumber ↦ ?_)
    rw [hreply number (List.mem_range.mp hnumber), hconfig]
  have houtcome (after : History) (retried : Retried ServiceError (CaseOutput α)) :
      e'.outcome case after retried = e.outcome case after retried := by
    simp only [outcome, hverdict]
  rw [evaluateCase, evaluateCase, hretried, helapsed, houtcome]

theorem runCases_spec (cases : List Case) (history : History) :
    (evaluator.runCases blueprint cases history).2 =
        (executionCalls blueprint cases
          ((evaluator.runCases blueprint cases history).1.map (·.outcome))).reverse ++ history ∧
      AttemptedWithin (evaluator.config.maxRetries + 1) cases
        ((evaluator.runCases blueprint cases history).1.map (·.outcome)) := by
  induction cases generalizing history with
  | nil => exact ⟨rfl, .nil⟩
  | cons case cases ih =>
    let retried := evaluator.retried blueprint case history
    let after := history.repeated (.execute blueprint case) retried.attempts
    obtain ⟨hcalls, hattempted⟩ := ih after
    have hattempts := evaluator.outcome_attempts case after retried
    have hbounds := evaluator.retried_attempts blueprint case history
    refine ⟨?_, .cons ⟨evaluator.outcome_caseId case after retried, ?_⟩ hattempted⟩
    · refine hcalls.trans ?_
      simp only [runCases, evaluateCase, List.map_cons, executionCalls, List.zip_cons_cons,
        List.flatMap_cons, List.reverse_append, List.reverse_replicate, List.append_assoc]
      rw [hattempts]
      rfl
    · rwa [hattempts]

/-- An evaluation makes the calls that its outcomes tell of, and has one outcome for each case. -/
theorem evaluateCases_spec (cases : List Case) (split : Split) (history : History) :
    (evaluator.evaluateCases blueprint cases split history).2 =
        (executionCalls blueprint cases
          (evaluator.evaluateCases blueprint cases split history).1.outcomes).reverse ++ history ∧
      AttemptedWithin (evaluator.config.maxRetries + 1) cases
        (evaluator.evaluateCases blueprint cases split history).1.outcomes :=
  evaluator.runCases_spec blueprint cases history

end Evaluator

end WorkflowSearch
