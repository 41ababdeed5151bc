import WorkflowSearch.Proofs.Optimization.Stages

namespace WorkflowSearch

section

variable {α σ : Type} [Scalar α] [RandomSource σ]

/-- A configuration is faulted before any call, or when its judges cannot be made. The latter comes
after the schema and the tools were fetched and the root was built. -/
theorem optimize_eq_configuration_iff {surroundings : Surroundings α σ} {task : String}
    {config checked : Config α} {seed seed' : ℕ} {error : ConfigError α} {history : History} :
    optimize surroundings task config seed =
        .error (.failed ⟨.configuration error, seed', checked, history⟩) ↔
      seed' = seed ∧
        (checkedConfig task config = (checked, .error error) ∧ history = [] ∨
          ∃ profile schema catalog dataset root,
            checkedConfig task config = (checked, .ok profile) ∧
            surroundings.service.schema [] = .ok schema ∧
            surroundings.service.catalog [.schema] = .ok catalog ∧
            synthesize task schema checked.dataset (surroundings.source seed) = .ok dataset ∧
            rootBlueprint task checked (inferIntents task schema) catalog = .ok root ∧
            Evaluator.ofConfig surroundings.service surroundings.judges checked.search =
              .error error ∧
            history = [.catalog, .schema]) := by
  rw [optimize_eq_error_iff]
  constructor
  · intro h
    cases h with
    | configuration h => exact ⟨rfl, .inl ⟨h, rfl⟩⟩
    | judges h hschema hcatalog hdataset hroot hjudges =>
      exact ⟨rfl, .inr ⟨_, _, _, _, _, h, hschema, hcatalog, hdataset, hroot, hjudges, rfl⟩⟩
  · rintro ⟨rfl, ⟨h, rfl⟩ |
      ⟨profile, schema, catalog, dataset, root, h, hschema, hcatalog, hdataset, hroot, hjudges, rfl⟩⟩
    · exact .configuration h
    · exact .judges h hschema hcatalog hdataset hroot hjudges

/-- A search never fails: a run over train cases ends with a best node, and an optimization whose
first stages succeed does so too. -/
theorem optimize_succeeds (surroundings : Surroundings α σ) (task : String) (config : Config α)
    (seed : ℕ) :
    (∀ (problem : SearchProblem α) (root : Blueprint) (source : σ) (history : History),
      problem.train ≠ [] → ∃ outcome best, problem.run root source history = .ok outcome ∧
        outcome.best? = some best) ∧
    (∀ error, optimize surroundings task config seed = .error (.failed error) →
      ∀ failure, error.fault ≠ .search failure) ∧
    ∀ checked profile schema catalog dataset root evaluator,
      config.resolveProfile = (checked, .ok profile) → checked.validate = .ok () →
      (Text.trim task).isEmpty = false → surroundings.service.schema [] = .ok schema →
      surroundings.service.catalog [.schema] = .ok catalog →
      synthesize task schema checked.dataset (surroundings.source seed) = .ok dataset →
      rootBlueprint task checked (inferIntents task schema) catalog = .ok root →
      Evaluator.ofConfig surroundings.service surroundings.judges checked.search =
        .ok evaluator →
      ∃ result, optimize surroundings task config seed = .ok result := by
  refine ⟨fun problem root source history htrain ↦ ?_, fun error h failure hfault ↦ ?_, ?_⟩
  · obtain ⟨outcome, houtcome, -⟩ := SearchProblem.run_reaches htrain root source history
    obtain ⟨best, hbest⟩ := SearchProblem.exists_best_of_run houtcome
    exact ⟨outcome, best, houtcome, hbest⟩
  · cases optimize_eq_error_iff.mp h <;> cases hfault
  · intro checked profile schema catalog dataset root evaluator hresolve hvalid htask hschema
      hcatalog hdataset hroot hevaluator
    have hreached : Prepared.Reached surroundings task config seed
        ⟨profile, checked, schema, catalog, dataset, root, evaluator⟩ :=
      ⟨checkedConfig_eq_ok_iff.mpr ⟨hresolve, hvalid, htask⟩, hschema, hcatalog, hdataset, hroot,
        hevaluator⟩
    obtain ⟨outcome, best, -, -, hok⟩ := hreached.optimize_eq
    exact ⟨_, hok⟩

end

/-- A rubric judge without a key is a fault of the configuration that is found after two calls. -/
theorem optimize_rubric_without_key :
    ∃ error checked, optimize smallSurroundings "Find accounts" (smallConfig [.rubric]) 0 =
      .error (.failed ⟨.configuration error, 0, checked, [.catalog, .schema]⟩) := by
  obtain ⟨dataset, root, hdataset, hroot⟩ := exists_small_root [.rubric]
  obtain ⟨⟨⟩, hvalid⟩ : ∃ u, (smallConfig [.rubric]).validate = .ok u :=
    exists_eq_ok_of_isOk (by decide +kernel)
  have hschema : smallSurroundings.service.schema [] = .ok smallSchema := rfl
  have hcatalog : smallSurroundings.service.catalog [.schema] = .ok [] := rfl
  obtain ⟨error, hjudges⟩ : ∃ error, Evaluator.ofConfig smallSurroundings.service
      smallSurroundings.judges (smallConfig [.rubric]).search = .error error := ⟨_, rfl⟩
  exact ⟨error, _, (Stopped.judges (checkedConfig_small hvalid) hschema hcatalog hdataset hroot
    hjudges).optimize_eq⟩

def outageSurroundings : Surroundings ℚ ChaCha :=
  { smallSurroundings with service.schema := fun _ ↦ .error (.invocation "outage") }

theorem optimize_succeeds_small :
    (∃ outcome best, simulatedProblem.run simulatedRoot (ChaCha.ofSeed 0) [] = .ok outcome ∧
      outcome.best? = some best) ∧
    (∃ error, optimize outageSurroundings "Find accounts" (smallConfig [.rule, .heuristic]) 0 =
        .error (.failed error) ∧ ∀ failure, error.fault ≠ .search failure) ∧
    ∃ result, optimize smallSurroundings "Find accounts" (smallConfig [.rule, .heuristic]) 0 =
      .ok result := by
  obtain ⟨p, hp⟩ := exists_small_reached
  obtain ⟨hrun, -, hsmall⟩ := optimize_succeeds smallSurroundings "Find accounts"
    (smallConfig [.rule, .heuristic]) 0
  refine ⟨?_, ?_, ?_⟩
  · exact hrun simulatedProblem simulatedRoot (ChaCha.ofSeed 0) [] simulatedProblem_train_ne_nil
  · have hschema : outageSurroundings.service.schema [] = .error (.invocation "outage") := rfl
    have hstopped : Stopped outageSurroundings "Find accounts" (smallConfig [.rule, .heuristic]) 0
        (.failed ⟨.catalog (.invocation "outage"), 0, p.config, [.schema]⟩) :=
      .schema hp.checked hschema
    exact ⟨_, hstopped.optimize_eq, (optimize_succeeds _ _ _ _).2.1 _ hstopped.optimize_eq⟩
  · obtain ⟨hresolve, hvalid, htask⟩ := checkedConfig_eq_ok_iff.mp hp.checked
    exact hsmall p.config p.profile p.schema p.catalog p.dataset p.root p.evaluator hresolve hvalid
      htask hp.schema hp.catalog hp.dataset hp.root hp.evaluator

end WorkflowSearch
