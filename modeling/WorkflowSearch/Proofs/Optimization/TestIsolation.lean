import WorkflowSearch.Proofs.Optimization.Stages
import WorkflowSearch.Proofs.Search.Agreement

namespace WorkflowSearch

section

variable {α σ : Type}

theorem ne_test_of_mem_take {dataset : Dataset α} {split : Split} {budget : ℕ} {case : Case}
    (hsplit : split ≠ .test) (h : case ∈ (dataset.ofSplit split).take budget) :
    case.split ≠ .test := by
  rwa [Dataset.split_of_mem_ofSplit (List.mem_of_mem_take h)]

variable [Scalar α]

namespace SearchProblem

section OfDataset

variable {evaluator evaluator' : Evaluator α} {config : SearchConfig α} {task : String}
  {dataset dataset' : Dataset α} {intents : List Intent} {catalog catalog' : List Tool}
  {cancellation : Cancellation}

omit [Scalar α] in
theorem split_ne_test {case : Case}
    (h : case ∈ (ofDataset evaluator config task dataset intents catalog cancellation).train ++
      (ofDataset evaluator config task dataset intents catalog cancellation).validation) :
    case.split ≠ .test := by
  rw [train_ofDataset, validation_ofDataset] at h
  rcases List.mem_append.mp h with h | h
  · exact ne_test_of_mem_take (by decide) h
  · exact ne_test_of_mem_take (by decide) h

theorem agrees_ofDataset
    (htrain : (dataset.ofSplit .train).take config.trainBudget =
      (dataset'.ofSplit .train).take config.trainBudget)
    (hvalidation : config.useHoldout = true →
      (dataset.ofSplit .validation).take config.validationBudget =
        (dataset'.ofSplit .validation).take config.validationBudget)
    (halike : Evaluator.Alike ((dataset.ofSplit .train).take config.trainBudget) evaluator
      evaluator')
    (halike' : config.useHoldout = true → Evaluator.Alike
      ((dataset.ofSplit .validation).take config.validationBudget) evaluator evaluator')
    (hempty : catalog.isEmpty = catalog'.isEmpty)
    (hranked : ∀ gains : ToolGains α, rankTools task intents gains catalog =
      rankTools task intents gains catalog') :
    (ofDataset evaluator config task dataset intents catalog cancellation).Agrees
      (ofDataset evaluator' config task dataset' intents catalog' cancellation) where
  config := rfl
  task := rfl
  catalog_isEmpty := hempty
  ranked := hranked
  cancellation := rfl
  train_isEmpty := by rw [train_ofDataset, train_ofDataset, htrain]
  evaluate blueprint history := by
    unfold evaluate
    rw [train_ofDataset, train_ofDataset, validation_ofDataset, validation_ofDataset, ← htrain]
    have hfirst := halike.evaluateCases_eq blueprint .train history
    by_cases hholdout : config.useHoldout = true
    · rw [← hvalidation hholdout]
      have hsecond := (halike' hholdout).evaluateCases_eq blueprint .validation
      simp only [ofDataset, hfirst, hsecond]
      rfl
    · simp only [ofDataset, hfirst, hholdout]
      rfl

end OfDataset

end SearchProblem

theorem testEvaluation_spec (evaluator : Evaluator α) (cancellation : Cancellation)
    (dataset : Dataset α) (budget : ℕ) (blueprint : Blueprint) (history : History) :
    let (summary?, after) :=
      testEvaluation evaluator cancellation dataset budget blueprint history
    let cases := dataset.ofSplit .test
    if cancellation .afterSearch history = true ∨ cases = [] then
      summary? = none ∧ after = history
    else
      ∃ summary, summary? = some summary ∧
        AttemptedWithin (evaluator.config.maxRetries + 1) (cases.take budget) summary.outcomes ∧
        after.reverse =
          history.reverse ++ executionCalls blueprint (cases.take budget) summary.outcomes := by
  obtain ⟨hcalls, hattempted⟩ := evaluator.evaluateCases_spec blueprint
    ((dataset.ofSplit .test).take budget) .test history
  by_cases h : cancellation .afterSearch history = true ∨ dataset.ofSplit .test = []
  · have hskipped : (cancellation .afterSearch history || (dataset.ofSplit .test).isEmpty) = true := by
      simpa using h
    simp only [testEvaluation, if_pos hskipped, if_pos h, and_self]
  · have hdone : ¬ (cancellation .afterSearch history || (dataset.ofSplit .test).isEmpty) = true := by
      simpa using h
    simp only [testEvaluation, if_neg hdone, if_neg h]
    refine ⟨_, rfl, hattempted, ?_⟩
    rw [hcalls, List.reverse_append, List.reverse_reverse]

variable [RandomSource σ]

/-- The test split does not leak into a search. A run executes the root and then every child on the
first train cases and, with a holdout, the first validation cases, and nothing else; what it finds
depends on these cases alone; and an optimization executes test cases only after its run, in one
evaluation of the best blueprint at most. -/
theorem no_test_leakage :
    (∀ (evaluator : Evaluator α) (config : SearchConfig α) (task : String) (dataset : Dataset α)
      (intents : List Intent) (catalog : List Tool) (cancellation : Cancellation)
      (root : Blueprint) (source : σ) (history : History),
      config.validate = .ok () → dataset.ofSplit .train ≠ [] →
      let train := (dataset.ofSplit .train).take config.trainBudget
      let validation := (dataset.ofSplit .validation).take config.validationBudget
      ∃ outcome, (SearchProblem.ofDataset evaluator config task dataset intents catalog
          cancellation).run root source history = .ok outcome ∧
        let final := outcome.final
        final.tree.root?.map (·.blueprint) = some root ∧
        final.tree.nodes.map (·.id) = List.range final.tree.size ∧
        (∀ node ∈ final.tree.nodes, node.Evaluated (evaluator.config.maxRetries + 1) train
          validation config.useHoldout) ∧
        final.history.reverse = history.reverse ++
          final.tree.nodes.flatMap (·.calls train validation config.useHoldout) ∧
        ∀ call ∈ final.history,
          call ∈ history ∨ ∃ blueprint case, call = .execute blueprint case ∧ case.split ≠ .test) ∧
    (∀ (evaluator evaluator' : Evaluator α) (config : SearchConfig α) (task : String)
      (dataset dataset' : Dataset α) (intents : List Intent) (catalog : List Tool)
      (cancellation : Cancellation) (root : Blueprint) (source : σ) (history : History),
      let train (d : Dataset α) := (d.ofSplit .train).take config.trainBudget
      let validation (d : Dataset α) := (d.ofSplit .validation).take config.validationBudget
      train dataset = train dataset' →
      (config.useHoldout = true → validation dataset = validation dataset') →
      Evaluator.Alike (train dataset) evaluator evaluator' →
      (config.useHoldout = true → Evaluator.Alike (validation dataset) evaluator evaluator') →
      (SearchProblem.ofDataset evaluator config task dataset intents catalog cancellation).run root
          source history =
        (SearchProblem.ofDataset evaluator' config task dataset' intents catalog cancellation).run
          root source history) ∧
    ∀ (surroundings : Surroundings α σ) (task : String) (config : Config α) (seed : ℕ),
      (∀ stop, optimize surroundings task config seed = .error stop →
        ∀ call ∈ stop.history, call.isExecution = false) ∧
      ∀ result, optimize surroundings task config seed = .ok result →
        ∃ p : Prepared α, p.Reached surroundings task config seed ∧
          (p.problem surroundings task).run p.root (surroundings.source seed) [.catalog, .schema] =
            .ok result.outcome ∧
          result.outcome.best? = some result.best ∧
          (∀ blueprint case, .execute blueprint case ∈ result.outcome.final.history →
            case.split ≠ .test) ∧
          let cases := p.dataset.ofSplit .test
          if surroundings.cancellation .afterSearch result.outcome.final.history = true ∨
              cases = [] then
            result.testSummary = none ∧ result.history = result.outcome.final.history
          else
            ∃ summary, result.testSummary = some summary ∧
              AttemptedWithin (p.evaluator.config.maxRetries + 1)
                (cases.take p.config.search.testBudget) summary.outcomes ∧
              result.history.reverse = result.outcome.final.history.reverse ++
                executionCalls result.best.blueprint (cases.take p.config.search.testBudget)
                  summary.outcomes := by
  refine ⟨?_, ?_, fun surroundings task config seed ↦ ⟨?_, ?_⟩⟩
  · intro evaluator config task dataset intents catalog cancellation root source history hvalid
      htrain train validation
    let problem :=
      SearchProblem.ofDataset evaluator config task dataset intents catalog cancellation
    have hbudget := (config.validate_eq_ok_iff.mp hvalid).trainBudget
    have hcases : problem.train ≠ [] := by
      rw [SearchProblem.train_ofDataset, ne_eq, List.take_eq_nil_iff, not_or]
      exact ⟨hbudget, htrain⟩
    obtain ⟨outcome, houtcome, haccounted⟩ :=
      SearchProblem.run_accounted hcases root source history
    have hhistory := haccounted.history_eq
    have hevaluated := haccounted.nodes_evaluated
    rw [SearchProblem.nodeCalls_ofDataset] at hhistory
    rw [SearchProblem.nodeEvaluated_ofDataset] at hevaluated
    refine ⟨outcome, houtcome, haccounted.root?, haccounted.nodes_ids, hevaluated, hhistory,
      fun call hcall ↦ ?_⟩
    rcases haccounted.call_cases hcall with hcall | ⟨blueprint, case, hcase, rfl⟩
    · exact .inl hcall
    · exact .inr ⟨blueprint, case, rfl, SearchProblem.split_ne_test hcase⟩
  · intro evaluator evaluator' config task dataset dataset' intents catalog cancellation root source
      history train validation htrain hvalidation halike halike'
    exact (SearchProblem.agrees_ofDataset htrain hvalidation halike halike' rfl fun _ ↦ rfl).run_eq
      root source history
  · intro stop h call hcall
    have hcalls := (optimize_eq_error_iff.mp h).history_subset hcall
    simp only [List.mem_cons, List.not_mem_nil, or_false] at hcalls
    rcases hcalls with rfl | rfl <;> rfl
  · intro result h
    obtain ⟨p, hp, outcome, best, houtcome, hbest, rfl⟩ := exists_prepared_of_optimize h
    obtain ⟨outcome', houtcome', haccounted⟩ := SearchProblem.run_accounted hp.train_ne_nil p.root
      (surroundings.source seed) [.catalog, .schema]
    obtain rfl : outcome' = outcome := Except.ok.inj (houtcome'.symm.trans houtcome)
    refine ⟨p, hp, houtcome, hbest, fun blueprint case hcall ↦ ?_, ?_⟩
    · rcases haccounted.call_cases hcall with hcall | ⟨_, case', hcase, heq⟩
      · simp at hcall
      · obtain ⟨-, rfl⟩ := Call.execute.inj heq
        exact SearchProblem.split_ne_test hcase
    · exact testEvaluation_spec p.evaluator surroundings.cancellation p.dataset
        p.config.search.testBudget best.blueprint outcome'.final.history

end

def fixtureWithoutTest : Dataset ℚ :=
  { (fixtureDataset 5 : Dataset ℚ) with
    cases := (fixtureDataset 5 : Dataset ℚ).cases.filter (·.split ≠ .test) }

def testlessEvaluator : Evaluator ℚ :=
  { simulatedEvaluator with
    service.execute := fun history blueprint case ↦
      if case.split = .test then ⟨0, .error (.invocation "test case")⟩
      else simulatedEvaluator.service.execute history blueprint case }

theorem testlessEvaluator_alike {cases : List Case} (h : ∀ case ∈ cases, case.split ≠ .test) :
    Evaluator.Alike cases simulatedEvaluator testlessEvaluator where
  config := rfl
  objective := rfl
  lowScoreThreshold := rfl
  execute case hcase history blueprint := by
    simp only [testlessEvaluator, if_neg (h case hcase)]
  verdict _ _ _ _ := rfl

theorem simulated_no_test_leakage :
    (∃ outcome, simulatedProblem.run simulatedRoot (ChaCha.ofSeed 0) [] = .ok outcome ∧
      ∀ call ∈ outcome.final.history,
        ∃ blueprint case, call = .execute blueprint case ∧ case.split ≠ .test) ∧
    simulatedProblem.run simulatedRoot (ChaCha.ofSeed 0) [] =
      (SearchProblem.ofDataset testlessEvaluator .default "Find accounts" fixtureWithoutTest [.query]
        simulatedCatalog .never).run simulatedRoot (ChaCha.ofSeed 0) [] ∧
    ∃ result, optimize smallSurroundings "Find accounts" (smallConfig [.rule, .heuristic]) 0 =
        .ok result ∧
      ∀ blueprint case, .execute blueprint case ∈ result.outcome.final.history →
        case.split ≠ .test := by
  obtain ⟨hrun, hagree, hoptimize⟩ := no_test_leakage (α := ℚ) (σ := ChaCha)
  refine ⟨?_, ?_, ?_⟩
  · obtain ⟨⟨⟩, hvalid⟩ : ∃ u, (SearchConfig.default : SearchConfig ℚ).validate = .ok u :=
      exists_eq_ok_of_isOk (by decide +kernel)
    have htrain : (fixtureDataset 5 : Dataset ℚ).ofSplit .train ≠ [] := by decide +kernel
    obtain ⟨outcome, houtcome, -, -, -, -, hcalls⟩ := hrun simulatedEvaluator .default
      "Find accounts" (fixtureDataset 5) [.query] simulatedCatalog .never simulatedRoot
      (ChaCha.ofSeed 0) [] hvalid htrain
    refine ⟨outcome, houtcome, fun call hcall ↦ ?_⟩
    exact (hcalls call hcall).resolve_left (List.not_mem_nil)
  · refine hagree simulatedEvaluator testlessEvaluator .default "Find accounts" (fixtureDataset 5)
      fixtureWithoutTest [.query] simulatedCatalog .never simulatedRoot (ChaCha.ofSeed 0) []
      (by decide +kernel) (fun _ ↦ by decide +kernel) (testlessEvaluator_alike ?_)
      fun _ ↦ testlessEvaluator_alike ?_
    · exact fun case hcase ↦ ne_test_of_mem_take (by decide) hcase
    · exact fun case hcase ↦ ne_test_of_mem_take (by decide) hcase
  · obtain ⟨p, hp⟩ := exists_small_reached
    obtain ⟨outcome, best, -, -, hresult⟩ := hp.optimize_eq
    obtain ⟨-, -, -, -, hcalls, -⟩ := (hoptimize _ _ _ _).2 _ hresult
    exact ⟨_, hresult, hcalls⟩

end WorkflowSearch
