import Mathlib.Data.List.Nodup
import Mathlib.Tactic.Common
import WorkflowSearch.Evaluation.Evaluator
import WorkflowSearch.Proofs.Evaluation.Calls

namespace WorkflowSearch

variable {α : Type}

/-- How far the evaluation of a case is. Attempts are counted from zero. -/
inductive Progress (α : Type) where
  | waiting (attempt : ℕ)
  /-- The call of an attempt is made, and its reply will be this. -/
  | calling (attempt : ℕ) (reply : Except ServiceError (CaseOutput α))
  /-- No attempt is left to make, and what they came to is to be judged. -/
  | attempted (result : Except ServiceError (CaseOutput α)) (attempts : ℕ)
  | done (outcome : CaseOutcome α)

structure Batch (α : Type) where
  history : History
  pending : List Case
  inFlight : List (Case × Progress α)
  collected : List (Case × CaseOutcome α)

inductive Turn where
  | start
  | advance (place : ℕ)
  | collect

namespace Batch

def ofCases (cases : List Case) (history : History) : Batch α :=
  ⟨history, cases, [], []⟩

def outcomes (batch : Batch α) : List (CaseOutcome α) :=
  batch.collected.map (·.2)

def Finished (batch : Batch α) : Prop :=
  batch.pending = [] ∧ batch.inFlight = []

def tasks (batch : Batch α) : List (Case × Progress α) :=
  batch.collected.map (fun (case, outcome) ↦ (case, .done outcome)) ++ batch.inFlight ++
    batch.pending.map (·, .waiting 0)

theorem tasks_ofCases (cases : List Case) (base : History) :
    (ofCases cases base : Batch α).tasks = cases.map (·, .waiting 0) :=
  rfl

theorem Finished.tasks_eq {batch : Batch α} (h : batch.Finished) :
    batch.tasks = batch.collected.map fun (case, outcome) ↦ (case, .done outcome) := by
  rw [tasks, h.1, h.2, List.map_nil, List.append_nil, List.append_nil]

end Batch

section Tasks

def Progress.attempts : Progress α → ℕ
  | .waiting attempt => attempt
  | .calling attempt _ => attempt + 1
  | .attempted _ attempts => attempts
  | .done outcome => outcome.attempts

def Progress.Within (retries : ℕ) (case : Case) : Progress α → Prop
  | .waiting attempt | .calling attempt _ => attempt ≤ retries
  | .attempted _ attempts => 1 ≤ attempts ∧ attempts ≤ retries + 1
  | .done outcome =>
    outcome.caseId = case.id ∧ 1 ≤ outcome.attempts ∧ outcome.attempts ≤ retries + 1

def taskAttempts (caseId : String) (tasks : List (Case × Progress α)) : ℕ :=
  (tasks.map fun (case, progress) ↦ if case.id = caseId then progress.attempts else 0).sum

theorem taskAttempts_cons (caseId : String) (case : Case) (progress : Progress α)
    (tasks : List (Case × Progress α)) :
    taskAttempts caseId ((case, progress) :: tasks) =
      (if case.id = caseId then progress.attempts else 0) + taskAttempts caseId tasks :=
  rfl

theorem taskAttempts_append (caseId : String) (before after : List (Case × Progress α)) :
    taskAttempts caseId (before ++ after) =
      taskAttempts caseId before + taskAttempts caseId after := by
  rw [taskAttempts, List.map_append, List.sum_append]
  rfl

theorem taskAttempts_eq_zero {caseId : String} {tasks : List (Case × Progress α)}
    (h : caseId ∉ tasks.map (·.1.id)) : taskAttempts caseId tasks = 0 := by
  induction tasks with
  | nil => rfl
  | cons task tasks ih =>
    obtain ⟨hne, hnew⟩ := not_or.mp (mt List.mem_cons.mpr h)
    rw [taskAttempts_cons, if_neg (Ne.symm hne), ih hnew]

theorem taskAttempts_of_mem {tasks : List (Case × Progress α)} (h : (tasks.map (·.1.id)).Nodup)
    {case : Case} {progress : Progress α} (hmem : (case, progress) ∈ tasks) :
    taskAttempts case.id tasks = progress.attempts := by
  obtain ⟨before, after, rfl⟩ := List.append_of_mem hmem
  rw [List.map_append, List.map_cons, List.nodup_middle, List.nodup_cons, List.mem_append,
    not_or] at h
  rw [taskAttempts_append, taskAttempts_cons, if_pos rfl, taskAttempts_eq_zero h.1.1,
    taskAttempts_eq_zero h.1.2, Nat.zero_add, Nat.add_zero]

theorem taskAttempts_waiting (caseId : String) (cases : List Case) :
    taskAttempts caseId (cases.map fun case ↦ (case, (.waiting 0 : Progress α))) = 0 := by
  induction cases with
  | nil => rfl
  | cons case cases ih =>
    rw [List.map_cons, taskAttempts_cons, ih]
    exact ite_self 0

theorem taskAttempts_done {collected : List (Case × CaseOutcome α)}
    (h : ∀ task ∈ collected, task.2.caseId = task.1.id) (caseId : String) :
    taskAttempts caseId (collected.map fun (case, outcome) ↦ (case, .done outcome)) =
      attemptsOn caseId (collected.map (·.2)) := by
  induction collected with
  | nil => rfl
  | cons task collected ih =>
    obtain ⟨hfirst, hothers⟩ := List.forall_mem_cons.mp h
    rw [List.map_cons, List.map_cons, taskAttempts_cons, attemptsOn_cons, ih hothers, hfirst]
    rfl

/-- The tasks of a batch are on some cases, and account for the calls since some history. -/
structure Batch.Accounted (retries : ℕ) (cases : List Case) (base : History)
    (batch : Batch α) : Prop where
  cases_eq : batch.tasks.map (·.1) = cases
  within : ∀ task ∈ batch.tasks, task.2.Within retries task.1
  executions : ∀ caseId,
    batch.history.executions caseId = base.executions caseId + taskAttempts caseId batch.tasks

namespace Batch

theorem accounted_ofCases (retries : ℕ) (cases : List Case) (base : History) :
    (ofCases cases base : Batch α).Accounted retries cases base where
  cases_eq := by
    rw [tasks_ofCases, List.map_map]
    exact List.map_id cases
  within task htask := by
    obtain ⟨case, -, rfl⟩ := List.mem_map.mp htask
    exact Nat.zero_le _
  executions caseId := by
    rw [tasks_ofCases, taskAttempts_waiting]
    rfl

/-- A batch that is finished has one outcome for each case, in order, and has made the calls that
its outcomes tell of. -/
theorem Accounted.of_finished {batch : Batch α} {retries : ℕ} {cases : List Case} {base : History}
    (h : batch.Accounted retries cases base) (hfinished : batch.Finished) :
    AttemptedWithin (retries + 1) cases batch.outcomes ∧
      ∀ caseId, batch.history.executions caseId =
        base.executions caseId + attemptsOn caseId batch.outcomes := by
  obtain ⟨rfl, hwithin, hexecutions⟩ := h
  rw [hfinished.tasks_eq] at hwithin hexecutions ⊢
  rw [List.forall_mem_map] at hwithin
  refine ⟨?_, fun caseId ↦ ?_⟩
  · rw [outcomes, AttemptedWithin, List.map_map, List.forall₂_map_left_iff,
      List.forall₂_map_right_iff, List.forall₂_same]
    exact hwithin
  · rw [hexecutions, taskAttempts_done (fun task htask ↦ (hwithin task htask).1)]
    rfl

end Batch

end Tasks

variable [Scalar α]

namespace Evaluator

variable (evaluator : Evaluator α) (blueprint : Blueprint)

def places : ℕ :=
  max evaluator.config.maxConcurrency 1

/-- What a case in flight does next, and the calls that are made by then. -/
def advance? (case : Case) (history : History) : Progress α → Option (Progress α × History)
  | .waiting attempt =>
    some (.calling attempt (evaluator.attempt blueprint case history 0),
      .execute blueprint case :: history)
  | .calling attempt (.ok output) => some (.attempted (.ok output) (attempt + 1), history)
  | .calling attempt (.error error) =>
    if error.isRetryable ∧ attempt < evaluator.config.maxRetries then
      some (.waiting (attempt + 1), history)
    else some (.attempted (.error error) (attempt + 1), history)
  | .attempted result attempts =>
    some (.done (evaluator.outcome case history ⟨result, attempts, []⟩), history)
  | .done _ => none

def turn? (turn : Turn) (batch : Batch α) : Option (Batch α) :=
  match turn with
  | .start =>
    match batch.pending with
    | [] => none
    | case :: pending =>
      if batch.inFlight.length < evaluator.places then
        some { batch with pending, inFlight := batch.inFlight ++ [(case, .waiting 0)] }
      else none
  | .advance place => do
    let (case, progress) ← batch.inFlight[place]?
    let (progress, history) ← evaluator.advance? blueprint case batch.history progress
    return { batch with history, inFlight := batch.inFlight.set place (case, progress) }
  | .collect =>
    match batch.inFlight with
    | (case, .done outcome) :: inFlight =>
      some { batch with inFlight, collected := batch.collected ++ [(case, outcome)] }
    | _ => none

def takeTurns (schedule : List Turn) (batch : Batch α) : Option (Batch α) :=
  schedule.foldlM (fun batch turn ↦ evaluator.turn? blueprint turn batch) batch

inductive Advances (case : Case) (history : History) : Progress α → Progress α → History → Prop
  | called {attempt : ℕ} :
      Advances case history (.waiting attempt)
        (.calling attempt (evaluator.attempt blueprint case history 0))
        (.execute blueprint case :: history)
  | answered {attempt : ℕ} {output : CaseOutput α} :
      Advances case history (.calling attempt (.ok output))
        (.attempted (.ok output) (attempt + 1)) history
  | retrying {attempt : ℕ} {error : ServiceError} (hretryable : error.isRetryable)
      (hleft : attempt < evaluator.config.maxRetries) :
      Advances case history (.calling attempt (.error error)) (.waiting (attempt + 1)) history
  | failed {attempt : ℕ} {error : ServiceError}
      (hlast : ¬ (error.isRetryable ∧ attempt < evaluator.config.maxRetries)) :
      Advances case history (.calling attempt (.error error))
        (.attempted (.error error) (attempt + 1)) history
  | judged {result : Except ServiceError (CaseOutput α)} {attempts : ℕ} :
      Advances case history (.attempted result attempts)
        (.done (evaluator.outcome case history ⟨result, attempts, []⟩)) history

inductive Turns (batch : Batch α) : Batch α → Prop
  | started {case : Case} {pending : List Case} (hpending : batch.pending = case :: pending)
      (hplace : batch.inFlight.length < evaluator.places) :
      Turns batch { batch with pending, inFlight := batch.inFlight ++ [(case, .waiting 0)] }
  | advanced {before after : List (Case × Progress α)} {case : Case} {progress next : Progress α}
      {history : History} (hflight : batch.inFlight = before ++ (case, progress) :: after)
      (hnext : evaluator.Advances blueprint case batch.history progress next history) :
      Turns batch { batch with history, inFlight := before ++ (case, next) :: after }
  | collected {case : Case} {outcome : CaseOutcome α} {inFlight : List (Case × Progress α)}
      (hflight : batch.inFlight = (case, .done outcome) :: inFlight) :
      Turns batch { batch with inFlight, collected := batch.collected ++ [(case, outcome)] }

variable {evaluator blueprint} {turn : Turn} {batch next : Batch α}

theorem advances_of_advance? {case : Case} {history history' : History}
    {progress progress' : Progress α}
    (h : evaluator.advance? blueprint case history progress = some (progress', history')) :
    evaluator.Advances blueprint case history progress progress' history' := by
  cases progress with
  | waiting attempt =>
    obtain ⟨rfl, rfl⟩ := Prod.mk.inj (Option.some.inj h)
    exact .called
  | calling attempt reply =>
    cases reply with
    | ok output =>
      obtain ⟨rfl, rfl⟩ := Prod.mk.inj (Option.some.inj h)
      exact .answered
    | error error =>
      rw [advance?] at h
      split at h
      · next hretry =>
        obtain ⟨rfl, rfl⟩ := Prod.mk.inj (Option.some.inj h)
        exact .retrying hretry.1 hretry.2
      · next hlast =>
        obtain ⟨rfl, rfl⟩ := Prod.mk.inj (Option.some.inj h)
        exact .failed hlast
  | attempted result attempts =>
    obtain ⟨rfl, rfl⟩ := Prod.mk.inj (Option.some.inj h)
    exact .judged
  | done outcome => cases h

theorem turns_of_turn? (h : evaluator.turn? blueprint turn batch = some next) :
    evaluator.Turns blueprint batch next := by
  cases turn with
  | start =>
    simp only [turn?] at h
    split at h
    · cases h
    · next case pending hpending =>
      split at h
      · next hplace =>
        obtain rfl := Option.some.inj h
        exact .started hpending hplace
      · cases h
  | advance place =>
    obtain ⟨⟨case, progress⟩, hget, h⟩ := Option.bind_eq_some_iff.mp h
    obtain ⟨⟨progress', history⟩, hnext, h⟩ := Option.bind_eq_some_iff.mp h
    obtain rfl := Option.some.inj h
    obtain ⟨hlt, hget⟩ := List.getElem?_eq_some_iff.mp hget
    obtain ⟨before, after, hflight, -, hset⟩ :=
      @List.exists_of_set _ place (case, progress') _ hlt
    rw [hget] at hflight
    rw [hset]
    exact .advanced hflight (advances_of_advance? hnext)
  | collect =>
    simp only [turn?] at h
    split at h
    · next case outcome inFlight hflight =>
      obtain rfl := Option.some.inj h
      exact .collected hflight
    · cases h

theorem Turns.tasks_cases (h : evaluator.Turns blueprint batch next) :
    (next.tasks = batch.tasks ∧ next.history = batch.history) ∨
      ∃ before after case progress progress',
        batch.tasks = before ++ (case, progress) :: after ∧
        next.tasks = before ++ (case, progress') :: after ∧
        evaluator.Advances blueprint case batch.history progress progress' next.history := by
  obtain ⟨history, pending, inFlight, collected⟩ := batch
  -- A case that starts or is collected only gets from one part of the batch to the next.
  cases h with
  | started hpending hplace =>
    subst hpending
    refine .inl ⟨?_, rfl⟩
    simp only [Batch.tasks, List.map_cons, List.append_assoc, List.cons_append, List.nil_append]
  | @advanced before after case progress progress' history' hflight hnext =>
    subst hflight
    refine .inr ⟨collected.map (fun (case, outcome) ↦ (case, .done outcome)) ++ before,
      after ++ pending.map (·, .waiting 0), case, progress, progress', ?_, ?_, hnext⟩
    · simp only [Batch.tasks, List.append_assoc, List.cons_append]
    · simp only [Batch.tasks, List.append_assoc, List.cons_append]
  | collected hflight =>
    subst hflight
    refine .inl ⟨?_, rfl⟩
    simp only [Batch.tasks, List.map_append, List.map_cons, List.map_nil, List.append_assoc,
      List.cons_append, List.nil_append]

theorem Turns.length_inFlight_le (h : evaluator.Turns blueprint batch next)
    (hbatch : batch.inFlight.length ≤ evaluator.places) :
    next.inFlight.length ≤ evaluator.places := by
  cases h with
  | started hpending hplace =>
    rw [List.length_append, List.length_singleton]
    exact hplace
  | advanced hflight hnext =>
    rw [hflight] at hbatch
    simpa using hbatch
  | collected hflight =>
    rw [hflight, List.length_cons] at hbatch
    exact Nat.le_of_succ_le hbatch

theorem takeTurns_induction {P : Batch α → Prop}
    (step : ∀ {batch next : Batch α}, evaluator.Turns blueprint batch next → P batch → P next)
    {schedule : List Turn} (h : evaluator.takeTurns blueprint schedule batch = some next)
    (hbatch : P batch) : P next := by
  induction schedule generalizing batch with
  | nil =>
    obtain rfl := Option.some.inj h
    exact hbatch
  | cons turn schedule ih =>
    obtain ⟨middle, hturn, hrest⟩ := Option.bind_eq_some_iff.mp h
    exact ih hrest (step (turns_of_turn? hturn) hbatch)

theorem advance?_cases (evaluator : Evaluator α) (blueprint : Blueprint) (case : Case)
    (history : History) (progress : Progress α) :
    (∃ outcome, progress = .done outcome) ∨
      ∃ moved, evaluator.advance? blueprint case history progress = some moved := by
  cases progress with
  | waiting attempt => exact .inr ⟨_, rfl⟩
  | calling attempt reply =>
    cases reply with
    | ok output => exact .inr ⟨_, rfl⟩
    | error error =>
      by_cases hretry : error.isRetryable ∧ attempt < evaluator.config.maxRetries
      · exact .inr ⟨_, if_pos hretry⟩
      · exact .inr ⟨_, if_neg hretry⟩
  | attempted result attempts => exact .inr ⟨_, rfl⟩
  | done outcome => exact .inl ⟨outcome, rfl⟩

/-- Until a batch is finished, some turn can be taken. -/
theorem exists_turn (evaluator : Evaluator α) (blueprint : Blueprint) {batch : Batch α}
    (h : ¬ batch.Finished) : ∃ turn next, evaluator.turn? blueprint turn batch = some next := by
  obtain ⟨history, pending, inFlight, collected⟩ := batch
  cases inFlight with
  | nil =>
    cases pending with
    | nil => exact absurd ⟨rfl, rfl⟩ h
    | cons case pending =>
      have hplace : 0 < evaluator.places :=
        Nat.lt_of_lt_of_le Nat.zero_lt_one (Nat.le_max_right _ _)
      exact ⟨.start, _, if_pos hplace⟩
  | cons task inFlight =>
    -- The first case in flight can go on or be collected.
    obtain ⟨case, progress⟩ := task
    obtain ⟨outcome, rfl⟩ | ⟨moved, hmoved⟩ :=
      evaluator.advance?_cases blueprint case history progress
    · exact ⟨.collect, _, rfl⟩
    · refine ⟨.advance 0, ?_⟩
      simp only [turn?, List.getElem?_cons_zero, Option.bind_eq_bind, Option.bind_some, hmoved]
      exact ⟨_, rfl⟩

end Evaluator

section Weight

/-- The greatest number of turns that a case can still take, its collection included. -/
def Progress.weight (retries : ℕ) : Progress α → ℕ
  | .waiting attempt => 2 * (retries - attempt) + 4
  | .calling attempt _ => 2 * (retries - attempt) + 3
  | .attempted .. => 2
  | .done _ => 1

def Batch.weight (retries : ℕ) (batch : Batch α) : ℕ :=
  batch.pending.length * (2 * retries + 5) + (batch.inFlight.map (·.2.weight retries)).sum

variable {evaluator : Evaluator α} {blueprint : Blueprint} {batch next : Batch α}

namespace Evaluator

theorem Advances.weight_lt {case : Case} {history history' : History}
    {progress progress' : Progress α}
    (h : evaluator.Advances blueprint case history progress progress' history') :
    progress'.weight evaluator.config.maxRetries < progress.weight evaluator.config.maxRetries := by
  cases h with
  | called => exact Nat.lt_succ_self _
  | answered | retrying | failed =>
    simp only [Progress.weight]
    omega
  | judged => exact Nat.lt_succ_self _

theorem Turns.weight_lt (h : evaluator.Turns blueprint batch next) :
    next.weight evaluator.config.maxRetries < batch.weight evaluator.config.maxRetries := by
  obtain ⟨history, pending, inFlight, collected⟩ := batch
  cases h with
  | started hpending hplace =>
    subst hpending
    simp only [Batch.weight, List.map_append, List.sum_append, List.map_singleton,
      List.sum_singleton, List.length_cons, Progress.weight, Nat.succ_mul]
    omega
  | advanced hflight hnext =>
    subst hflight
    have hless := hnext.weight_lt
    simp only [Batch.weight, List.map_append, List.sum_append, List.map_cons, List.sum_cons]
    omega
  | collected hflight =>
    subst hflight
    simp only [Batch.weight, List.map_cons, List.sum_cons, Progress.weight]
    omega

theorem length_schedule_le {schedule : List Turn}
    (h : evaluator.takeTurns blueprint schedule batch = some next) :
    schedule.length + next.weight evaluator.config.maxRetries ≤
      batch.weight evaluator.config.maxRetries := by
  induction schedule generalizing batch with
  | nil =>
    obtain rfl := Option.some.inj h
    exact Nat.le_of_eq (Nat.zero_add _)
  | cons turn schedule ih =>
    obtain ⟨middle, hturn, hrest⟩ := Option.bind_eq_some_iff.mp h
    have hfirst := (turns_of_turn? hturn).weight_lt
    have hothers := ih hrest
    rw [List.length_cons]
    omega

theorem exists_finished (evaluator : Evaluator α) (blueprint : Blueprint) (batch : Batch α) :
    ∃ schedule final, evaluator.takeTurns blueprint schedule batch = some final ∧
      final.Finished := by
  induction hweight : batch.weight evaluator.config.maxRetries using Nat.strongRecOn
    generalizing batch with
  | ind weight ih =>
    subst hweight
    by_cases hfinished : batch.Finished
    · exact ⟨[], batch, rfl, hfinished⟩
    · obtain ⟨turn, next, hturn⟩ := evaluator.exists_turn blueprint hfinished
      obtain ⟨schedule, final, hrest, hfinal⟩ := ih _ (turns_of_turn? hturn).weight_lt next rfl
      exact ⟨turn :: schedule, final, Option.bind_eq_some_iff.mpr ⟨next, hturn, hrest⟩, hfinal⟩

end Evaluator

end Weight

section Accounts

variable {evaluator : Evaluator α} {blueprint : Blueprint} {cases : List Case} {base : History}
  {batch next : Batch α}

namespace Evaluator

variable {case : Case} {history history' : History} {progress progress' : Progress α}

theorem Advances.within
    (h : evaluator.Advances blueprint case history progress progress' history')
    (hwithin : progress.Within evaluator.config.maxRetries case) :
    progress'.Within evaluator.config.maxRetries case := by
  cases h with
  | called => exact hwithin
  | answered | failed => exact ⟨Nat.succ_pos _, Nat.succ_le_succ hwithin⟩
  | retrying hretryable hleft => exact hleft
  | judged =>
    refine ⟨evaluator.outcome_caseId .., ?_⟩
    rw [outcome_attempts]
    exact hwithin

theorem Advances.executions
    (h : evaluator.Advances blueprint case history progress progress' history')
    (caseId : String) :
    history'.executions caseId + (if case.id = caseId then progress.attempts else 0) =
      history.executions caseId + (if case.id = caseId then progress'.attempts else 0) := by
  cases h with
  | called =>
    have hcall : History.executions (.execute blueprint case :: history) caseId =
        (if case.id = caseId then 1 else 0) + history.executions caseId :=
      history.executions_repeated blueprint case 1 caseId
    rw [hcall]
    simp only [Progress.attempts]
    split <;> omega
  | answered | failed | retrying => rfl
  | judged =>
    simp only [Progress.attempts, outcome_attempts]

end Evaluator

namespace Batch

theorem Accounted.turn (h : batch.Accounted evaluator.config.maxRetries cases base)
    (hturn : evaluator.Turns blueprint batch next) :
    next.Accounted evaluator.config.maxRetries cases base := by
  obtain ⟨htasks, hhistory⟩ | ⟨before, after, case, progress, progress', htasks, hnext, hmoved⟩ :=
    hturn.tasks_cases
  · refine ⟨?_, ?_, fun caseId ↦ ?_⟩
    · rw [htasks]
      exact h.cases_eq
    · rw [htasks]
      exact h.within
    · rw [htasks, hhistory]
      exact h.executions caseId
  · obtain ⟨hcases, hwithin, hexecutions⟩ := h
    rw [htasks] at hcases hwithin hexecutions
    rw [List.forall_mem_append, List.forall_mem_cons] at hwithin
    refine ⟨?_, ?_, fun caseId ↦ ?_⟩
    · rw [hnext, ← hcases]
      simp only [List.map_append, List.map_cons]
    · rw [hnext, List.forall_mem_append, List.forall_mem_cons]
      exact ⟨hwithin.1, hmoved.within hwithin.2.1, hwithin.2.2⟩
    · have hbefore := hexecutions caseId
      have hstep := hmoved.executions caseId
      rw [taskAttempts_append, taskAttempts_cons] at hbefore
      rw [hnext, taskAttempts_append, taskAttempts_cons]
      omega

end Batch

end Accounts

end WorkflowSearch
