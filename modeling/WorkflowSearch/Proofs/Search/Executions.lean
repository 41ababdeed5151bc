import WorkflowSearch.Proofs.Dataset.Slicing
import WorkflowSearch.Proofs.Evaluation.Calls
import WorkflowSearch.Proofs.Search.Steps

namespace WorkflowSearch

variable {α σ : Type}

namespace Node

def calls (train validation : List Case) (useHoldout : Bool) (node : Node α) : List Call :=
  executionCalls node.blueprint train node.train.outcomes ++
    if useHoldout then executionCalls node.blueprint validation node.validation.outcomes else []

structure Evaluated (limit : ℕ) (train validation : List Case) (useHoldout : Bool)
    (node : Node α) : Prop where
  train : AttemptedWithin limit train node.train.outcomes
  validation : useHoldout = true → AttemptedWithin limit validation node.validation.outcomes

theorem exists_of_mem_calls {train validation : List Case} {useHoldout : Bool} {node : Node α}
    {call : Call} (h : call ∈ node.calls train validation useHoldout) :
    ∃ case ∈ train ++ validation, call = .execute node.blueprint case := by
  rcases List.mem_append.mp h with h | h
  · obtain ⟨case, hcase, rfl⟩ := exists_of_mem_executionCalls h
    exact ⟨case, List.mem_append_left _ hcase, rfl⟩
  · split at h
    · obtain ⟨case, hcase, rfl⟩ := exists_of_mem_executionCalls h
      exact ⟨case, List.mem_append_right _ hcase, rfl⟩
    · cases h

end Node

namespace SearchProblem

section

variable (problem : SearchProblem α)

def nodeCalls (node : Node α) : List Call :=
  node.calls problem.train problem.validation problem.config.useHoldout

def NodeEvaluated (node : Node α) : Prop :=
  node.Evaluated (problem.evaluator.config.maxRetries + 1) problem.train problem.validation
    problem.config.useHoldout

variable (evaluator : Evaluator α) (config : SearchConfig α) (task : String) (dataset : Dataset α)
  (intents : List Intent) (catalog : List Tool) (cancellation : Cancellation)

@[simp]
theorem train_ofDataset :
    (ofDataset evaluator config task dataset intents catalog cancellation).train =
      (dataset.ofSplit .train).take config.trainBudget :=
  dataset.ofSplit_sliced _ .train

@[simp]
theorem validation_ofDataset :
    (ofDataset evaluator config task dataset intents catalog cancellation).validation =
      (dataset.ofSplit .validation).take config.validationBudget :=
  dataset.ofSplit_sliced _ .validation

theorem nodeCalls_ofDataset :
    (ofDataset evaluator config task dataset intents catalog cancellation).nodeCalls =
      Node.calls ((dataset.ofSplit .train).take config.trainBudget)
        ((dataset.ofSplit .validation).take config.validationBudget) config.useHoldout := by
  funext node
  rw [nodeCalls, train_ofDataset, validation_ofDataset]
  rfl

theorem nodeEvaluated_ofDataset :
    (ofDataset evaluator config task dataset intents catalog cancellation).NodeEvaluated =
      Node.Evaluated (evaluator.config.maxRetries + 1)
        ((dataset.ofSplit .train).take config.trainBudget)
        ((dataset.ofSplit .validation).take config.validationBudget) config.useHoldout := by
  funext node
  rw [NodeEvaluated, train_ofDataset, validation_ofDataset]
  rfl

end

variable [Scalar α] (problem : SearchProblem α)

theorem evaluate_spec {node : Node α} {before after : History}
    (h : problem.evaluate node.blueprint before = ((node.train, node.validation), after)) :
    after = (problem.nodeCalls node).reverse ++ before ∧ problem.NodeEvaluated node := by
  obtain ⟨htrainCalls, htrain⟩ :=
    problem.evaluator.evaluateCases_spec node.blueprint problem.train .train before
  unfold evaluate at h
  dsimp only at h
  split at h
  · next hholdout =>
    obtain ⟨hsummaries, rfl⟩ := Prod.mk.inj h
    obtain ⟨hfirst, hsecond⟩ := Prod.mk.inj hsummaries
    obtain ⟨hcalls, hvalidation⟩ := problem.evaluator.evaluateCases_spec node.blueprint
      problem.validation .validation
      (problem.evaluator.evaluateCases node.blueprint problem.train .train before).2
    rw [hfirst] at htrainCalls htrain
    rw [hsecond] at hcalls hvalidation
    refine ⟨?_, htrain, fun _ ↦ hvalidation⟩
    rw [hcalls, htrainCalls, nodeCalls, Node.calls, if_pos hholdout, List.reverse_append,
      List.append_assoc]
  · next hholdout =>
    obtain ⟨hsummaries, rfl⟩ := Prod.mk.inj h
    obtain ⟨hfirst, -⟩ := Prod.mk.inj hsummaries
    rw [hfirst] at htrainCalls htrain
    refine ⟨?_, htrain, fun hholdout' ↦ absurd hholdout' hholdout⟩
    rw [htrainCalls, nodeCalls, Node.calls, if_neg hholdout, List.append_nil]

/-- The nodes are numbered from the root on, all of them are evaluated, and the calls since a
history are theirs. -/
structure Accounted (root : Blueprint) (history : History) (state : SearchState α σ) : Prop where
  root : (state.tree.created.map (·.blueprint)).head? = some root
  calls : state.history.reverse = history.reverse ++ state.tree.created.flatMap problem.nodeCalls
  evaluated : ∀ node ∈ state.tree.created, problem.NodeEvaluated node
  ids : state.tree.created.map (·.id) = List.range state.tree.size

variable {problem}

theorem accounted_seeded (root : Blueprint) (source : σ) (history : History) :
    problem.Accounted root history (problem.seeded root source history) := by
  obtain ⟨node, hseeded⟩ := problem.exists_seeded root source history
  obtain ⟨hcalls, hevaluated⟩ := problem.evaluate_spec hseeded.evaluated
  refine ⟨?_, ?_, ?_, ?_⟩
  · rw [hseeded.created, List.map_singleton, List.head?_cons, hseeded.blueprint]
  · rw [hseeded.created, hcalls, List.reverse_append, List.reverse_reverse,
      List.flatMap_singleton]
  · rw [hseeded.created]
    exact List.forall_mem_singleton.mpr hevaluated
  · rw [← Tree.length_created, hseeded.created, List.map_singleton, hseeded.id_eq]
    rfl

theorem Accounted.recorded {root : Blueprint} {history : History} {before after : SearchState α σ}
    {child : Node α} {entry : TraceEntry α} (h : problem.Accounted root history before)
    (hrecorded : problem.Recorded before after child entry) :
    problem.Accounted root history after := by
  obtain ⟨hcalls, hevaluated⟩ := problem.evaluate_spec hrecorded.evaluated
  refine ⟨?_, ?_, ?_, ?_⟩
  · rw [hrecorded.created, List.map_append, List.head?_append, h.root]
    rfl
  · rw [hcalls, hrecorded.created, List.reverse_append, List.reverse_reverse, h.calls,
      List.flatMap_append, List.flatMap_singleton, List.append_assoc]
  · rw [hrecorded.created]
    exact List.forall_mem_append.mpr ⟨h.evaluated, List.forall_mem_singleton.mpr hevaluated⟩
  · rw [← Tree.length_created, hrecorded.created, List.map_append, h.ids, List.length_append,
      Tree.length_created, List.length_singleton, List.range_succ, List.map_singleton,
      hrecorded.id_eq]

theorem Accounted.root? {root : Blueprint} {history : History} {state : SearchState α σ}
    (h : problem.Accounted root history state) :
    state.tree.root?.map (·.blueprint) = some root := by
  have hroot := h.root
  rw [Tree.map_created (fun _ ↦ rfl), List.head?_map] at hroot
  exact hroot

theorem Accounted.history_eq {root : Blueprint} {history : History} {state : SearchState α σ}
    (h : problem.Accounted root history state) :
    state.history.reverse = history.reverse ++ state.tree.nodes.flatMap problem.nodeCalls := by
  have hcalls := h.calls
  rwa [Tree.flatMap_created (fun _ ↦ rfl)] at hcalls

theorem Accounted.nodes_evaluated {root : Blueprint} {history : History} {state : SearchState α σ}
    (h : problem.Accounted root history state) :
    ∀ node ∈ state.tree.nodes, problem.NodeEvaluated node := by
  intro node hnode
  obtain ⟨htrain, hvalidation⟩ := h.evaluated node.asCreated (List.mem_map_of_mem hnode)
  exact ⟨htrain, hvalidation⟩

theorem Accounted.nodes_ids {root : Blueprint} {history : History} {state : SearchState α σ}
    (h : problem.Accounted root history state) :
    state.tree.nodes.map (·.id) = List.range state.tree.size := by
  rw [← Tree.map_created (fun _ ↦ rfl), h.ids]

theorem Accounted.call_cases {root : Blueprint} {history : History} {state : SearchState α σ}
    (h : problem.Accounted root history state) {call : Call} (hcall : call ∈ state.history) :
    call ∈ history ∨
      ∃ blueprint, ∃ case ∈ problem.train ++ problem.validation, call = .execute blueprint case := by
  rw [← List.mem_reverse, h.history_eq, List.mem_append, List.mem_reverse] at hcall
  rcases hcall with hcall | hcall
  · exact .inl hcall
  · obtain ⟨node, -, hcall⟩ := List.mem_flatMap.mp hcall
    obtain ⟨case, hcase, rfl⟩ := Node.exists_of_mem_calls hcall
    exact .inr ⟨node.blueprint, case, hcase, rfl⟩

theorem run_accounted [RandomSource σ] (htrain : problem.train ≠ []) (root : Blueprint)
    (source : σ) (history : History) :
    ∃ outcome, problem.run root source history = .ok outcome ∧
      problem.Accounted root history outcome.final := by
  obtain ⟨outcome, houtcome, hreaches⟩ := run_reaches htrain root source history
  exact ⟨outcome, houtcome, hreaches.induction (fun hrecorded h ↦ h.recorded hrecorded)
    (accounted_seeded root source history)⟩

end SearchProblem

end WorkflowSearch
