import WorkflowSearch.Proofs.Search.Best
import WorkflowSearch.Proofs.Search.Executions

namespace WorkflowSearch

variable {α σ : Type}

def Call.executes (case : Case) : Call → Bool
  | .execute _ executed => decide (executed = case)
  | _ => false

/-- The attempts in the summaries of a node. Without a holdout the validation summary only repeats
the train summary. -/
def Node.attemptsOn (useHoldout : Bool) (caseId : String) (node : Node α) : ℕ :=
  WorkflowSearch.attemptsOn caseId node.train.outcomes +
    if useHoldout then WorkflowSearch.attemptsOn caseId node.validation.outcomes else 0

theorem countP_executes {case : Case} {calls : List Call}
    (h : ∀ blueprint executed, .execute blueprint executed ∈ calls → executed.id = case.id →
      executed = case) : calls.countP (Call.executes case) = History.executions calls case.id := by
  refine List.countP_congr fun call hcall ↦ ?_
  cases call with
  | schema => exact Iff.rfl
  | catalog => exact Iff.rfl
  | execute blueprint executed =>
    simp only [Call.executes, decide_eq_true_eq, beq_iff_eq]
    exact ⟨congrArg Case.id, h blueprint executed hcall⟩

theorem Node.executions_calls {limit : ℕ} {train validation : List Case} {useHoldout : Bool}
    {node : Node α} (h : node.Evaluated limit train validation useHoldout) (caseId : String) :
    History.executions (node.calls train validation useHoldout) caseId =
      node.attemptsOn useHoldout caseId := by
  rw [calls, History.executions_append, h.train.executions_executionCalls, attemptsOn]
  split
  · next hholdout => rw [(h.validation hholdout).executions_executionCalls]
  · rfl

theorem Node.Evaluated.outcomes_records {limit : ℕ} {train validation : List Case}
    {useHoldout : Bool} {node : Node α} (h : node.Evaluated limit train validation useHoldout)
    (hsame : useHoldout = false → node.validation = node.train)
    (htrain : (train.map (·.id)).Nodup) (hvalidation : (validation.map (·.id)).Nodup) :
    (∀ result ∈ node.train.outcomes ++ node.validation.outcomes,
      1 ≤ result.attempts ∧ result.attempts ≤ limit) ∧
    node.train.outcomes.map (·.caseId) = train.map (·.id) ∧
    (if useHoldout then node.validation.outcomes.map (·.caseId) = validation.map (·.id)
    else node.validation = node.train) ∧
    (node.train.outcomes.map (·.caseId)).Nodup ∧
    (node.validation.outcomes.map (·.caseId)).Nodup := by
  have htrained : AttemptedWithin limit train node.train.outcomes := h.train
  have hdistinct : (node.train.outcomes.map (·.caseId)).Nodup := by
    rw [htrained.map_caseId]
    exact htrain
  cases useHoldout with
  | false =>
    rw [hsame rfl]
    exact ⟨List.forall_mem_append.mpr ⟨htrained.attempts_bounds, htrained.attempts_bounds⟩,
      htrained.map_caseId, rfl, hdistinct, hdistinct⟩
  | true =>
    have hvalidated : AttemptedWithin limit validation node.validation.outcomes :=
      h.validation rfl
    refine ⟨List.forall_mem_append.mpr ⟨htrained.attempts_bounds, hvalidated.attempts_bounds⟩,
      htrained.map_caseId, hvalidated.map_caseId, hdistinct, ?_⟩
    rw [hvalidated.map_caseId]
    exact hvalidation

namespace SearchProblem

variable {problem : SearchProblem α}

theorem countP_nodeCalls {case : Case}
    (hcase : ∀ c ∈ problem.train ++ problem.validation, c.id = case.id → c = case)
    {nodes : List (Node α)} (hnodes : ∀ node ∈ nodes, problem.NodeEvaluated node) :
    (nodes.flatMap problem.nodeCalls).countP (Call.executes case) =
      (nodes.map (·.attemptsOn problem.config.useHoldout case.id)).sum := by
  rw [List.countP_flatMap]
  refine congrArg List.sum (List.map_congr_left fun node hnode ↦ ?_)
  rw [← Node.executions_calls (hnodes node hnode)]
  refine countP_executes fun blueprint executed hcall hid ↦ ?_
  obtain ⟨c, hc, heq⟩ := Node.exists_of_mem_calls hcall
  obtain ⟨-, rfl⟩ := Call.execute.inj heq
  exact hcase executed hc hid

variable [Scalar α]

theorem validation_eq_of_evaluate {node : Node α} {before after : History}
    (h : problem.evaluate node.blueprint before = ((node.train, node.validation), after))
    (hholdout : problem.config.useHoldout = false) : node.validation = node.train := by
  rw [evaluate, hholdout] at h
  obtain ⟨hsummaries, -⟩ := Prod.mk.inj h
  obtain ⟨htrain, hvalidation⟩ := Prod.mk.inj hsummaries
  exact hvalidation.symm.trans htrain

theorem validation_eq_of_reaches [RandomSource σ] (hholdout : problem.config.useHoldout = false)
    {root : Blueprint} {source : σ} {history : History} {state : SearchState α σ}
    (h : problem.Reaches (problem.seeded root source history) state) :
    ∀ node ∈ state.tree.nodes, node.validation = node.train := by
  intro node hnode
  obtain ⟨_, _, hevaluate⟩ := h.exists_evaluate node hnode
  exact validation_eq_of_evaluate hevaluate hholdout

end SearchProblem

section Run

theorem eq_of_mem_take {dataset : Dataset α} (hids : (dataset.cases.map (·.id)).Nodup)
    {case : Case} (hcase : case ∈ dataset.cases) (split : Split) (budget : ℕ) :
    ∀ c ∈ (dataset.ofSplit split).take budget, c.id = case.id → c = case :=
  fun _ hc heq ↦ List.inj_on_of_nodup_map hids (List.mem_of_mem_filter (List.mem_of_mem_take hc))
    hcase heq

theorem nodup_map_id_take {dataset : Dataset α} (hids : (dataset.cases.map (·.id)).Nodup)
    (split : Split) (budget : ℕ) :
    (((dataset.ofSplit split).take budget).map (·.id)).Nodup :=
  hids.sublist (((List.take_sublist _ _).trans List.filter_sublist).map _)

variable [Scalar α] [RandomSource σ]

/-- Over a dataset in which no two cases share an id, the calls that a run makes for a case are as
many as the attempts that the nodes of its tree record for it. Each summary has one outcome for each
case of its split, in order, of at least one attempt and at most one more than the retries; without
a holdout the validation summary is the train summary again. -/
theorem run_records_attempts (evaluator : Evaluator α) (config : SearchConfig α) (task : String)
    (dataset : Dataset α) (intents : List Intent) (catalog : List Tool)
    (cancellation : Cancellation) (root : Blueprint) (source : σ) (history : History)
    (hids : (dataset.cases.map (·.id)).Nodup) :
    let problem :=
      SearchProblem.ofDataset evaluator config task dataset intents catalog cancellation
    let train := (dataset.ofSplit .train).take config.trainBudget
    let validation := (dataset.ofSplit .validation).take config.validationBudget
    (train = [] → problem.run root source history = .error ⟨.emptyTrainSplit, history⟩) ∧
    (train ≠ [] → ∃ outcome, problem.run root source history = .ok outcome ∧
      (∀ case ∈ dataset.cases,
        outcome.final.history.countP (Call.executes case) = history.countP (Call.executes case) +
          (outcome.final.tree.nodes.map (·.attemptsOn config.useHoldout case.id)).sum) ∧
      ∀ node ∈ outcome.final.tree.nodes,
        (∀ result ∈ node.train.outcomes ++ node.validation.outcomes,
          1 ≤ result.attempts ∧ result.attempts ≤ evaluator.config.maxRetries + 1) ∧
        node.train.outcomes.map (·.caseId) = train.map (·.id) ∧
        (if config.useHoldout then
          node.validation.outcomes.map (·.caseId) = validation.map (·.id)
        else node.validation = node.train) ∧
        (node.train.outcomes.map (·.caseId)).Nodup ∧
        (node.validation.outcomes.map (·.caseId)).Nodup) := by
  intro problem train validation
  have htrain : problem.train = train := SearchProblem.train_ofDataset ..
  have hvalidation : problem.validation = validation := SearchProblem.validation_ofDataset ..
  refine ⟨fun hempty ↦ ?_, fun hcases ↦ ?_⟩
  · rw [SearchProblem.run, htrain, hempty]
    rfl
  obtain ⟨outcome, houtcome, hreaches⟩ :=
    SearchProblem.run_reaches (htrain ▸ hcases) root source history
  have haccounted : problem.Accounted root history outcome.final :=
    hreaches.induction (fun hrecorded h ↦ h.recorded hrecorded)
      (SearchProblem.accounted_seeded root source history)
  refine ⟨outcome, houtcome, fun case hcase ↦ ?_, fun node hnode ↦ ?_⟩
  · have hknown : ∀ c ∈ problem.train ++ problem.validation, c.id = case.id → c = case := by
      rw [htrain, hvalidation, List.forall_mem_append]
      exact ⟨eq_of_mem_take hids hcase .train config.trainBudget,
        eq_of_mem_take hids hcase .validation config.validationBudget⟩
    have hnodes := SearchProblem.countP_nodeCalls hknown haccounted.nodes_evaluated
    rw [← List.countP_reverse, haccounted.history_eq, List.countP_append, List.countP_reverse,
      hnodes]
    rfl
  · have hevaluated := haccounted.nodes_evaluated node hnode
    rw [SearchProblem.NodeEvaluated, htrain, hvalidation] at hevaluated
    exact hevaluated.outcomes_records
      (fun hholdout ↦ SearchProblem.validation_eq_of_reaches hholdout hreaches node hnode)
      (nodup_map_id_take hids .train config.trainBudget)
      (nodup_map_id_take hids .validation config.validationBudget)

theorem simulatedProblem_records_attempts :
    ((fixtureDataset 5 : Dataset ℚ).cases.map (·.id)).Nodup ∧
      ∃ outcome, simulatedProblem.run simulatedRoot (ChaCha.ofSeed 0) [] = .ok outcome ∧
        ∀ case ∈ (fixtureDataset 5 : Dataset ℚ).cases,
          outcome.final.history.countP (Call.executes case) =
            (outcome.final.tree.nodes.map (·.attemptsOn true case.id)).sum := by
  have hids : ((fixtureDataset 5 : Dataset ℚ).cases.map (·.id)).Nodup := by decide +kernel
  obtain ⟨-, hrun⟩ := run_records_attempts simulatedEvaluator .default "Find accounts"
    (fixtureDataset 5) [.query] simulatedCatalog .never simulatedRoot (ChaCha.ofSeed 0) [] hids
  obtain ⟨outcome, houtcome, hcounts, -⟩ := hrun (by decide +kernel)
  exact ⟨hids, outcome, houtcome, fun case hcase ↦ (hcounts case hcase).trans (Nat.zero_add _)⟩

end Run

end WorkflowSearch
