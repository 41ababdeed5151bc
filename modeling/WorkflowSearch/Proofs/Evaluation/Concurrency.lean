import WorkflowSearch.Blueprint.Wiring
import WorkflowSearch.Fixture
import WorkflowSearch.Judge.Rubric
import WorkflowSearch.Proofs.Evaluation.Batch
import WorkflowSearch.Proofs.Evaluation.Calls
import WorkflowSearch.Proofs.Judge.Ensemble
import WorkflowSearch.Proofs.Results
import WorkflowSearch.Proofs.Scalar.Exact
import WorkflowSearch.Service.Scripted

namespace WorkflowSearch

variable {α : Type} [Scalar α]

section Assumptions

/-- The reply depends on the blueprint, the case, and how often the case was executed before. -/
def Service.RepliesByCount (service : Service α) : Prop :=
  ∀ (history history' : History) (blueprint : Blueprint) (case : Case),
    history.executions case.id = history'.executions case.id →
      service.execute history blueprint case = service.execute history' blueprint case

theorem ScriptedService.repliesByCount (service : ScriptedService α) :
    service.toService.RepliesByCount := by
  intro history history' blueprint case hcount
  simp only [toService, execute, hcount]

/-- The same question gets the same answer, whatever calls were made. -/
def Judge.Steady (judge : Judge α) : Prop :=
  ∀ (request : JudgeRequest) (history : History),
    judge.ask { request with history } = judge.ask request

def Ensemble.Steady (ensemble : Ensemble α) : Prop :=
  ∀ judge ∈ ensemble.judges, judge.Steady

theorem Judge.rule_steady : (Judge.rule : Judge α).Steady :=
  fun _ _ ↦ rfl

theorem Judge.heuristic_steady : (Judge.heuristic : Judge α).Steady :=
  fun _ _ ↦ rfl

theorem judgesOver_steady (network : Http.Network) {kind : JudgeKind}
    {config : EvaluationConfig Double} {judge : Judge Double}
    (h : judgesOver network kind config = .ok judge) : judge.Steady := by
  cases kind with
  | rule =>
    obtain rfl := Except.ok.inj h
    exact Judge.rule_steady
  | heuristic =>
    obtain rfl := Except.ok.inj h
    exact Judge.heuristic_steady
  | rubric =>
    rw [judgesOver] at h
    split at h
    · cases h
    · obtain rfl := Except.ok.inj h
      exact fun _ _ ↦ rfl

theorem Evaluator.ofConfig_steady {network : Http.Network} {service : Service Double}
    {config : SearchConfig Double} {evaluator : Evaluator Double}
    (h : Evaluator.ofConfig service (judgesOver network) config = .ok evaluator) :
    evaluator.ensemble.Steady := by
  obtain ⟨ensemble, hensemble, h⟩ := bind_eq_ok_iff.mp h
  obtain rfl := Except.ok.inj h
  intro judge hjudge
  obtain ⟨kind, -, hsource⟩ := (Ensemble.of_ofConfig hensemble).2 judge hjudge
  exact judgesOver_steady network hsource

theorem Ensemble.Steady.verdict_eq {ensemble : Ensemble α} (h : ensemble.Steady)
    (request : JudgeRequest) (history : History) :
    ensemble.verdict { request with history } = ensemble.verdict request := by
  have hvotes : ensemble.votes { request with history } = ensemble.votes request :=
    List.filterMap_congr fun judge hjudge ↦ by rw [h judge hjudge]
  have hfailures : ensemble.failures { request with history } = ensemble.failures request :=
    List.filterMap_congr fun judge hjudge ↦ by rw [h judge hjudge]
  rw [verdict, verdict, hvotes, hfailures]

end Assumptions

namespace Evaluator

variable {evaluator : Evaluator α} {blueprint : Blueprint} {case : Case}
  {history history' base : History}

theorem attempt_congr (hservice : evaluator.service.RepliesByCount) {number number' : ℕ}
    (h : history.executions case.id + number = history'.executions case.id + number') :
    evaluator.attempt blueprint case history number =
      evaluator.attempt blueprint case history' number' := by
  have hreply : evaluator.reply blueprint case history number =
      evaluator.reply blueprint case history' number' := by
    refine hservice _ _ blueprint case ?_
    rw [History.executions_repeated, History.executions_repeated, if_pos rfl, if_pos rfl]
    omega
  rw [attempt, attempt, hreply]

theorem outcome_congr (hjudges : evaluator.ensemble.Steady)
    {retried retried' : Retried ServiceError (CaseOutput α)}
    (hresult : retried.result = retried'.result)
    (hattempts : retried.attempts = retried'.attempts) :
    evaluator.outcome case history retried = evaluator.outcome case history' retried' := by
  have hverdict (output : CaseOutput α) :
      evaluator.ensemble.verdict (.ofOutput case history output) =
        evaluator.ensemble.verdict (.ofOutput case history' output) :=
    hjudges.verdict_eq (.ofOutput case history' output) history
  simp only [outcome, hresult, hattempts, hverdict]

/-- What the evaluation of a case comes to if it starts after some calls. -/
def aloneAfter (evaluator : Evaluator α) (blueprint : Blueprint) (history : History)
    (case : Case) : CaseOutcome α :=
  (evaluator.evaluateCase blueprint case history).1.outcome

theorem aloneAfter_congr (hservice : evaluator.service.RepliesByCount)
    (hjudges : evaluator.ensemble.Steady)
    (h : history.executions case.id = history'.executions case.id) :
    evaluator.aloneAfter blueprint history case = evaluator.aloneAfter blueprint history' case := by
  have hattempt : evaluator.attempt blueprint case history =
      evaluator.attempt blueprint case history' := by
    funext number
    exact attempt_congr hservice (by rw [h])
  have hretried : evaluator.retried blueprint case history =
      evaluator.retried blueprint case history' := by
    rw [retried, retried, hattempt]
  exact outcome_congr hjudges (by rw [hretried]) (by rw [hretried])

theorem outcomes_runCases (hservice : evaluator.service.RepliesByCount)
    (hjudges : evaluator.ensemble.Steady) {cases : List Case} (hids : (cases.map (·.id)).Nodup)
    (h : ∀ case ∈ cases, history.executions case.id = base.executions case.id) :
    (evaluator.runCases blueprint cases history).1.map (·.outcome) =
      cases.map (evaluator.aloneAfter blueprint base) := by
  induction cases generalizing history with
  | nil => rfl
  | cons case cases ih =>
    obtain ⟨hfirst, hothers⟩ := List.forall_mem_cons.mp h
    obtain ⟨hnew, hids⟩ := List.nodup_cons.mp hids
    refine congrArg₂ List.cons (aloneAfter_congr hservice hjudges hfirst) (ih hids ?_)
    intro other hother
    have hne : case.id ≠ other.id :=
      fun heq ↦ hnew (List.mem_map.mpr ⟨other, hother, heq.symm⟩)
    rw [← hothers other hother]
    refine (history.executions_repeated blueprint case _ other.id).trans ?_
    rw [if_neg hne, Nat.zero_add]

def resumed (evaluator : Evaluator α) (blueprint : Blueprint) (base : History) (case : Case)
    (attempt : ℕ) : CaseOutcome α :=
  evaluator.outcome case base (retryFrom (.ofConfig evaluator.config) ServiceError.isRetryable
    (evaluator.attempt blueprint case base) (evaluator.config.maxRetries - attempt) attempt)

/-- A case is on the way to what it would come to alone. -/
def OnTrack (evaluator : Evaluator α) (blueprint : Blueprint) (base : History) (case : Case) :
    Progress α → Prop
  | .waiting attempt =>
    evaluator.resumed blueprint base case attempt = evaluator.aloneAfter blueprint base case
  | .calling attempt reply =>
    evaluator.attempt blueprint case base attempt = reply ∧
      evaluator.resumed blueprint base case attempt = evaluator.aloneAfter blueprint base case
  | .attempted result attempts =>
    evaluator.outcome case base ⟨result, attempts, []⟩ = evaluator.aloneAfter blueprint base case
  | .done outcome => outcome = evaluator.aloneAfter blueprint base case

theorem onTrack_waiting (hjudges : evaluator.ensemble.Steady) (base : History) (case : Case) :
    evaluator.OnTrack blueprint base case (.waiting 0) :=
  outcome_congr hjudges rfl rfl

variable {progress progress' : Progress α}

theorem OnTrack.advances (hservice : evaluator.service.RepliesByCount)
    (hjudges : evaluator.ensemble.Steady)
    (hmoved : evaluator.Advances blueprint case history progress progress' history')
    (hcalls : history.executions case.id = base.executions case.id + progress.attempts)
    (h : evaluator.OnTrack blueprint base case progress) :
    evaluator.OnTrack blueprint base case progress' := by
  cases hmoved with
  | called => exact ⟨attempt_congr hservice hcalls.symm, h⟩
  | answered =>
    obtain ⟨hreply, h⟩ := h
    rw [resumed, retryFrom_of_ok hreply] at h
    exact h
  | @retrying attempt error hretryable hleft =>
    -- The pauses that are summed up besides play no part in the outcome.
    obtain ⟨hreply, h⟩ := h
    have hleft : evaluator.config.maxRetries - attempt =
        evaluator.config.maxRetries - (attempt + 1) + 1 := by omega
    rw [resumed, hleft, retryFrom_of_retryable hreply hretryable] at h
    exact (outcome_congr hjudges rfl rfl).trans h
  | failed hlast =>
    obtain ⟨hreply, h⟩ := h
    rw [resumed, retryFrom_of_last hreply] at h
    · exact h
    · rwa [Nat.sub_pos_iff_lt]
  | judged => exact (outcome_congr hjudges rfl rfl).trans h

variable {cases : List Case} {batch next : Batch α}

def AllOnTrack (evaluator : Evaluator α) (blueprint : Blueprint) (base : History)
    (batch : Batch α) : Prop :=
  ∀ task ∈ batch.tasks, evaluator.OnTrack blueprint base task.1 task.2

theorem allOnTrack_ofCases (hjudges : evaluator.ensemble.Steady) (base : History)
    (cases : List Case) : evaluator.AllOnTrack blueprint base (.ofCases cases base) := by
  intro task htask
  obtain ⟨case, -, rfl⟩ := List.mem_map.mp htask
  exact onTrack_waiting hjudges base case

theorem AllOnTrack.turn (hservice : evaluator.service.RepliesByCount)
    (hjudges : evaluator.ensemble.Steady) (hids : (cases.map (·.id)).Nodup)
    (haccounted : batch.Accounted evaluator.config.maxRetries cases base)
    (hturn : evaluator.Turns blueprint batch next) (h : evaluator.AllOnTrack blueprint base batch) :
    evaluator.AllOnTrack blueprint base next := by
  rw [AllOnTrack] at h ⊢
  obtain ⟨htasks, -⟩ | ⟨before, after, case, progress, progress', htasks, hnext, hmoved⟩ :=
    hturn.tasks_cases
  · rwa [htasks]
  · have hdistinct : (batch.tasks.map (·.1.id)).Nodup := by
      rw [← haccounted.cases_eq, List.map_map] at hids
      exact hids
    have hmem : (case, progress) ∈ batch.tasks := by
      rw [htasks]
      exact List.mem_append_right before List.mem_cons_self
    -- No other case has the id of this one, so its calls are its own attempts.
    have hcalls := haccounted.executions case.id
    rw [taskAttempts_of_mem hdistinct hmem] at hcalls
    rw [htasks, List.forall_mem_append, List.forall_mem_cons] at h
    rw [hnext, List.forall_mem_append, List.forall_mem_cons]
    exact ⟨h.1, h.2.1.advances hservice hjudges hmoved hcalls, h.2.2⟩

/-- At the same time, cases with different ids come to what each would come to alone. -/
theorem outcomes_takeTurns (hservice : evaluator.service.RepliesByCount)
    (hjudges : evaluator.ensemble.Steady) (hids : (cases.map (·.id)).Nodup)
    {schedule : List Turn}
    (h : evaluator.takeTurns blueprint schedule (.ofCases cases base) = some batch)
    (hfinished : batch.Finished) :
    batch.outcomes = cases.map (evaluator.aloneAfter blueprint base) := by
  obtain ⟨haccounted, htrack⟩ := takeTurns_induction
    (P := fun batch ↦ batch.Accounted evaluator.config.maxRetries cases base ∧
      evaluator.AllOnTrack blueprint base batch)
    (fun hturn ⟨haccounted, htrack⟩ ↦
      ⟨haccounted.turn hturn, htrack.turn hservice hjudges hids haccounted hturn⟩)
    h ⟨Batch.accounted_ofCases .., allOnTrack_ofCases hjudges base cases⟩
  have hcases := haccounted.cases_eq
  rw [hfinished.tasks_eq] at hcases
  rw [AllOnTrack, hfinished.tasks_eq, List.forall_mem_map] at htrack
  rw [← hcases, List.map_map, List.map_map]
  exact List.map_congr_left htrack

end Evaluator

/-- If the replies on a case depend on the calls for it alone, cases with different ids can be
evaluated at the same time. Whichever turns are taken, there are only so many, they can go on until
the batch is finished, and then its summary is that of the cases one after another. -/
theorem evaluateCases_concurrent {evaluator : Evaluator α}
    (hservice : evaluator.service.RepliesByCount) (hjudges : evaluator.ensemble.Steady)
    (blueprint : Blueprint) {cases : List Case} (hids : (cases.map (·.id)).Nodup) (split : Split)
    (history : History) {schedule : List Turn} {batch : Batch α}
    (hbatch : evaluator.takeTurns blueprint schedule (.ofCases cases history) = some batch) :
    let alone := evaluator.evaluateCases blueprint cases split history
    schedule.length ≤ cases.length * (2 * evaluator.config.maxRetries + 5) ∧
    batch.inFlight.length ≤ max evaluator.config.maxConcurrency 1 ∧
    (∃ rest final, evaluator.takeTurns blueprint rest batch = some final ∧ final.Finished) ∧
    (batch.Finished →
      summarize blueprint split batch.outcomes evaluator.objective
        evaluator.config.invalidFractionThreshold evaluator.lowScoreThreshold = alone.1 ∧
      batch.outcomes.map (·.caseId) = cases.map (·.id) ∧
      ∀ caseId, batch.history.executions caseId = alone.2.executions caseId) := by
  intro alone
  refine ⟨?_, ?_, evaluator.exists_finished blueprint batch, fun hfinished ↦ ?_⟩
  · have hlength := Evaluator.length_schedule_le hbatch
    have hstart : (Batch.ofCases cases history : Batch α).weight evaluator.config.maxRetries =
        cases.length * (2 * evaluator.config.maxRetries + 5) := rfl
    omega
  · exact Evaluator.takeTurns_induction
      (P := fun batch ↦ batch.inFlight.length ≤ evaluator.places)
      (fun hturn ↦ hturn.length_inFlight_le) hbatch (Nat.zero_le _)
  · have houtcomes : batch.outcomes = alone.1.outcomes :=
      (Evaluator.outcomes_takeTurns hservice hjudges hids hbatch hfinished).trans
        (Evaluator.outcomes_runCases hservice hjudges hids fun _ _ ↦ rfl).symm
    have haccounted : batch.Accounted evaluator.config.maxRetries cases history :=
      Evaluator.takeTurns_induction (fun hturn h ↦ h.turn hturn) hbatch
        (Batch.accounted_ofCases ..)
    obtain ⟨hattempted, hcalls⟩ := haccounted.of_finished hfinished
    refine ⟨congrArg (summarize blueprint split · _ _ _) houtcomes, hattempted.map_caseId,
      fun caseId ↦ ?_⟩
    obtain ⟨hsequential, hwithin⟩ := evaluator.evaluateCases_spec blueprint cases split history
    rw [hcalls, hsequential, History.executions_append, History.executions_reverse,
      hwithin.executions_executionCalls, houtcomes, Nat.add_comm]

section Flaky

def flakyEvaluator : Evaluator ℚ where
  service := ScriptedService.toService
    ⟨simulatedSchema, simulatedCatalog, false, false, [("case-0000", .fail 1)]⟩
  ensemble := ⟨[.rule, .heuristic], .default⟩
  config := { EvaluationConfig.default with maxConcurrency := 2 }
  objective := .default
  lowScoreThreshold := 0.6

def flakySchedule : List Turn :=
  [.start, .start, .advance 0, .advance 1, .advance 0, .advance 1, .advance 1, .advance 0,
    .advance 0, .advance 0, .collect, .start, .advance 1, .collect, .advance 0, .advance 0,
    .collect]

def flakyCases : List Case :=
  (fixtureDataset 3 : Dataset ℚ).cases

def flakyBlueprint : Blueprint :=
  ⟨Blueprint.initialParts "bp-0000" "flowforge" "Find accounts" (simulatedCatalog.take 3)
    .plannerWorkerReviewer, by decide⟩

theorem flakyEvaluator_concurrent :
    flakyEvaluator.service.RepliesByCount ∧ flakyEvaluator.ensemble.Steady ∧
      (flakyCases.map (·.id)).Nodup ∧
      ∃ batch, flakyEvaluator.takeTurns flakyBlueprint flakySchedule (.ofCases flakyCases []) =
          some batch ∧
        batch.Finished ∧ batch.outcomes.map (·.attempts) = [2, 1, 1] ∧
        summarize flakyBlueprint .train batch.outcomes flakyEvaluator.objective
            flakyEvaluator.config.invalidFractionThreshold flakyEvaluator.lowScoreThreshold =
          (flakyEvaluator.evaluateCases flakyBlueprint flakyCases .train []).1 := by
  have hservice : flakyEvaluator.service.RepliesByCount := ScriptedService.repliesByCount _
  have hjudges : flakyEvaluator.ensemble.Steady :=
    List.forall_mem_cons.mpr ⟨Judge.rule_steady, List.forall_mem_singleton.mpr
      Judge.heuristic_steady⟩
  have hids : (flakyCases.map (·.id)).Nodup := by decide +kernel
  have hturns : (flakyEvaluator.takeTurns flakyBlueprint flakySchedule
      (.ofCases flakyCases [])).any (fun batch ↦ batch.pending.isEmpty && batch.inFlight.isEmpty &&
        batch.outcomes.map (·.attempts) == [2, 1, 1]) := by
    decide +kernel
  obtain ⟨batch, hbatch, hend⟩ := (Option.any_eq_true _ _).mp hturns
  simp only [Bool.and_eq_true, List.isEmpty_iff, beq_iff_eq] at hend
  obtain ⟨hfinished, hattempts⟩ := hend
  obtain ⟨-, -, -, hcome⟩ := evaluateCases_concurrent hservice hjudges flakyBlueprint hids .train
    [] hbatch
  exact ⟨hservice, hjudges, hids, batch, hbatch, hfinished, hattempts, (hcome hfinished).1⟩

end Flaky

end WorkflowSearch
