import WorkflowSearch.Optimization.Basic
import WorkflowSearch.Proofs.Config.Validity
import WorkflowSearch.Proofs.Search.Best
import WorkflowSearch.Proofs.Synthesis.Splits

namespace WorkflowSearch

section

variable {α σ : Type} [Scalar α]

theorem checkedConfig_eq_ok_iff {task : String} {config checked : Config α}
    {profile : Option Profile} :
    checkedConfig task config = (checked, .ok profile) ↔
      config.resolveProfile = (checked, .ok profile) ∧ checked.validate = .ok () ∧
        (Text.trim task).isEmpty = false := by
  obtain ⟨⟨resolved, result⟩, hresolve⟩ :
      ∃ result, config.resolveProfile = result := ⟨_, rfl⟩
  simp only [checkedConfig, hresolve, Prod.mk.injEq]
  constructor
  · rintro ⟨rfl, h⟩
    obtain ⟨profile', rfl, h⟩ := bind_eq_ok_iff.mp h
    obtain ⟨hvalid, h⟩ := seq_eq_ok_iff.mp h
    by_cases hblank : (Text.trim task).isEmpty
    · rw [if_pos hblank] at h
      cases h
    · rw [if_neg hblank] at h
      obtain rfl : profile' = profile := Except.ok.inj h
      exact ⟨⟨rfl, rfl⟩, hvalid, by simpa using hblank⟩
  · rintro ⟨⟨rfl, rfl⟩, hvalid, htask⟩
    refine ⟨rfl, ?_⟩
    simp [hvalid, htask]

/-- What an optimization has when it starts to search. -/
structure Prepared (α : Type) where
  profile : Option Profile
  config : Config α
  schema : Schema
  catalog : List Tool
  dataset : Dataset α
  root : Blueprint
  evaluator : Evaluator α

variable [RandomSource σ] (surroundings : Surroundings α σ) (task : String) (config : Config α)
  (seed : ℕ)

namespace Prepared

structure Reached (p : Prepared α) : Prop where
  checked : checkedConfig task config = (p.config, .ok p.profile)
  schema : surroundings.service.schema [] = .ok p.schema
  catalog : surroundings.service.catalog [.schema] = .ok p.catalog
  dataset : synthesize task p.schema p.config.dataset (surroundings.source seed) = .ok p.dataset
  root : rootBlueprint task p.config (inferIntents task p.schema) p.catalog = .ok p.root
  evaluator : Evaluator.ofConfig surroundings.service surroundings.judges p.config.search =
    .ok p.evaluator

omit [RandomSource σ] in
def problem (p : Prepared α) : SearchProblem α :=
  .ofDataset p.evaluator p.config.search task p.dataset (inferIntents task p.schema) p.catalog
    surroundings.cancellation

end Prepared

/-- How the stages before the search stop, with the calls made by then. -/
inductive Stopped : OptimizationStop α → Prop
  | configuration {checked : Config α} {error : ConfigError α}
      (h : checkedConfig task config = (checked, .error error)) :
      Stopped (.failed ⟨.configuration error, seed, checked, []⟩)
  | schema {checked : Config α} {profile : Option Profile} {error : ServiceError}
      (h : checkedConfig task config = (checked, .ok profile))
      (hschema : surroundings.service.schema [] = .error error) :
      Stopped (.failed ⟨.catalog error, seed, checked, [.schema]⟩)
  | catalog {checked : Config α} {profile : Option Profile} {schema : Schema}
      {error : ServiceError}
      (h : checkedConfig task config = (checked, .ok profile))
      (hschema : surroundings.service.schema [] = .ok schema)
      (hcatalog : surroundings.service.catalog [.schema] = .error error) :
      Stopped (.failed ⟨.catalog error, seed, checked, [.catalog, .schema]⟩)
  | synthesis {checked : Config α} {profile : Option Profile} {schema : Schema}
      {catalog : List Tool} {error : SynthesisError}
      (h : checkedConfig task config = (checked, .ok profile))
      (hschema : surroundings.service.schema [] = .ok schema)
      (hcatalog : surroundings.service.catalog [.schema] = .ok catalog)
      (hdataset : synthesize task schema checked.dataset (surroundings.source seed) =
        .error (.failed error)) :
      Stopped (.failed ⟨.synthesis error, seed, checked, [.catalog, .schema]⟩)
  | panic {checked : Config α} {profile : Option Profile} {schema : Schema} {catalog : List Tool}
      (h : checkedConfig task config = (checked, .ok profile))
      (hschema : surroundings.service.schema [] = .ok schema)
      (hcatalog : surroundings.service.catalog [.schema] = .ok catalog)
      (hdataset : synthesize task schema checked.dataset (surroundings.source seed) =
        .error .panicked) :
      Stopped (.panicked [.catalog, .schema])
  | blueprint {checked : Config α} {profile : Option Profile} {schema : Schema}
      {catalog : List Tool} {dataset : Dataset α} {error : BlueprintError}
      (h : checkedConfig task config = (checked, .ok profile))
      (hschema : surroundings.service.schema [] = .ok schema)
      (hcatalog : surroundings.service.catalog [.schema] = .ok catalog)
      (hdataset : synthesize task schema checked.dataset (surroundings.source seed) = .ok dataset)
      (hroot : rootBlueprint task checked (inferIntents task schema) catalog = .error error) :
      Stopped (.failed ⟨.blueprint error, seed, checked, [.catalog, .schema]⟩)
  | judges {checked : Config α} {profile : Option Profile} {schema : Schema}
      {catalog : List Tool} {dataset : Dataset α} {root : Blueprint} {error : ConfigError α}
      (h : checkedConfig task config = (checked, .ok profile))
      (hschema : surroundings.service.schema [] = .ok schema)
      (hcatalog : surroundings.service.catalog [.schema] = .ok catalog)
      (hdataset : synthesize task schema checked.dataset (surroundings.source seed) = .ok dataset)
      (hroot : rootBlueprint task checked (inferIntents task schema) catalog = .ok root)
      (hjudges : Evaluator.ofConfig surroundings.service surroundings.judges checked.search =
        .error error) :
      Stopped (.failed ⟨.configuration error, seed, checked, [.catalog, .schema]⟩)

variable {surroundings task config seed}

namespace Prepared

variable {p : Prepared α}

theorem Reached.valid (h : p.Reached surroundings task config seed) :
    p.config.validate = .ok () :=
  (checkedConfig_eq_ok_iff.mp h.checked).2.1

theorem Reached.train_ne_nil (h : p.Reached surroundings task config seed) :
    (p.problem surroundings task).train ≠ [] := by
  obtain ⟨hdataset, hsearch⟩ := Config.valid_of_validate h.valid
  have htrain := train_ne_nil_of_synthesize h.dataset hdataset.minPerSplit
  rw [problem, SearchProblem.train_ofDataset]
  rw [ne_eq, List.take_eq_nil_iff, not_or]
  exact ⟨hsearch.trainBudget, htrain⟩

def result (surroundings : Surroundings α σ) (task : String) (seed : ℕ) (p : Prepared α)
    (outcome : SearchOutcome α σ) (best : Node α) : OptimizationResult α σ :=
  let (testSummary, history) := testEvaluation p.evaluator surroundings.cancellation p.dataset
    p.config.search.testBudget best.blueprint outcome.final.history
  { seed, profile := p.profile, config := p.config, datasetReport := p.dataset.report,
    intents := inferIntents task p.schema, best, testSummary, outcome, history }

theorem Reached.optimize_eq (h : p.Reached surroundings task config seed) :
    ∃ outcome best,
      (p.problem surroundings task).run p.root (surroundings.source seed) [.catalog, .schema] =
        .ok outcome ∧
      outcome.best? = some best ∧
      optimize surroundings task config seed = .ok (p.result surroundings task seed outcome best) := by
  obtain ⟨outcome, houtcome, -⟩ := SearchProblem.run_reaches h.train_ne_nil p.root
    (surroundings.source seed) [.catalog, .schema]
  obtain ⟨best, hbest⟩ := SearchProblem.exists_best_of_run houtcome
  refine ⟨outcome, best, houtcome, hbest, ?_⟩
  rw [problem] at houtcome
  simp only [optimize, h.checked, h.schema, h.catalog, h.dataset, h.root, h.evaluator,
    Except.mapError, ok_bind, houtcome, hbest]
  rfl

end Prepared

theorem Stopped.optimize_eq {stop : OptimizationStop α}
    (h : Stopped surroundings task config seed stop) :
    optimize surroundings task config seed = .error stop := by
  cases h with
  | configuration h => simp only [optimize, h, Except.mapError, error_bind]
  | schema h hschema => simp only [optimize, h, hschema, Except.mapError, ok_bind, error_bind]
  | catalog h hschema hcatalog =>
    simp only [optimize, h, hschema, hcatalog, Except.mapError, ok_bind, error_bind]
  | synthesis h hschema hcatalog hdataset | panic h hschema hcatalog hdataset =>
    simp only [optimize, h, hschema, hcatalog, hdataset, Except.mapError, ok_bind, error_bind]
  | blueprint h hschema hcatalog hdataset hroot =>
    simp only [optimize, h, hschema, hcatalog, hdataset, hroot, Except.mapError, ok_bind,
      error_bind]
  | judges h hschema hcatalog hdataset hroot hjudges =>
    simp only [optimize, h, hschema, hcatalog, hdataset, hroot, hjudges, Except.mapError, ok_bind,
      error_bind]

theorem Stopped.history_subset {stop : OptimizationStop α}
    (h : Stopped surroundings task config seed stop) : stop.history ⊆ [.catalog, .schema] := by
  cases h with
  | configuration => exact List.nil_subset _
  | schema => exact List.subset_cons_self _ _
  | catalog | synthesis | panic | blueprint | judges => exact List.Subset.refl _

/-- A stage before the search stops an optimization, or its search is reached. -/
theorem stopped_or_reached (surroundings : Surroundings α σ) (task : String) (config : Config α)
    (seed : ℕ) :
    (∃ stop, Stopped surroundings task config seed stop) ∨
      ∃ p : Prepared α, p.Reached surroundings task config seed := by
  obtain ⟨⟨checked, result⟩, h⟩ : ∃ result, checkedConfig task config = result := ⟨_, rfl⟩
  cases result with
  | error error => exact .inl ⟨_, .configuration h⟩
  | ok profile =>
    cases hschema : surroundings.service.schema [] with
    | error error => exact .inl ⟨_, .schema h hschema⟩
    | ok schema =>
      cases hcatalog : surroundings.service.catalog [.schema] with
      | error error => exact .inl ⟨_, .catalog h hschema hcatalog⟩
      | ok catalog =>
        cases hdataset : synthesize task schema checked.dataset (surroundings.source seed) with
        | error stop =>
          cases stop with
          | failed error => exact .inl ⟨_, .synthesis h hschema hcatalog hdataset⟩
          | panicked => exact .inl ⟨_, .panic h hschema hcatalog hdataset⟩
        | ok dataset =>
          cases hroot : rootBlueprint task checked (inferIntents task schema) catalog with
          | error error => exact .inl ⟨_, .blueprint h hschema hcatalog hdataset hroot⟩
          | ok root =>
            cases hjudges : Evaluator.ofConfig surroundings.service surroundings.judges
                checked.search with
            | error error => exact .inl ⟨_, .judges h hschema hcatalog hdataset hroot hjudges⟩
            | ok evaluator =>
              exact .inr ⟨⟨profile, checked, schema, catalog, dataset, root, evaluator⟩,
                h, hschema, hcatalog, hdataset, hroot, hjudges⟩

/-- An optimization fails exactly when a stage before its search stops it. -/
theorem optimize_eq_error_iff {stop : OptimizationStop α} :
    optimize surroundings task config seed = .error stop ↔
      Stopped surroundings task config seed stop := by
  refine ⟨fun h ↦ ?_, Stopped.optimize_eq⟩
  rcases stopped_or_reached surroundings task config seed with ⟨stop', hstopped⟩ | ⟨p, hp⟩
  · obtain rfl : stop' = stop := Except.error.inj (hstopped.optimize_eq.symm.trans h)
    exact hstopped
  · obtain ⟨outcome, best, -, -, hok⟩ := hp.optimize_eq
    rw [h] at hok
    cases hok

theorem exists_prepared_of_optimize {result : OptimizationResult α σ}
    (h : optimize surroundings task config seed = .ok result) :
    ∃ p : Prepared α, p.Reached surroundings task config seed ∧ ∃ outcome best,
      (p.problem surroundings task).run p.root (surroundings.source seed) [.catalog, .schema] =
        .ok outcome ∧
      outcome.best? = some best ∧ result = p.result surroundings task seed outcome best := by
  rcases stopped_or_reached surroundings task config seed with ⟨stop, hstopped⟩ | ⟨p, hp⟩
  · rw [hstopped.optimize_eq] at h
    cases h
  · obtain ⟨outcome, best, houtcome, hbest, hok⟩ := hp.optimize_eq
    rw [h] at hok
    exact ⟨p, hp, outcome, best, houtcome, hbest, Except.ok.inj hok⟩

end

def keylessJudges : JudgeSource ℚ
  | .rule, _ => .ok .rule
  | .heuristic, _ => .ok .heuristic
  | .rubric, _ => .error .missingApiKey

def smallDataset : DatasetConfig ℚ :=
  { DatasetConfig.default with
    targetSize := 3
    minSize := 3
    hardNegatives := false
    paraphrase := false }

def smallConfig (judges : List JudgeKind) : Config ℚ :=
  { Config.default with
    dataset := smallDataset
    search.evaluation.judges := judges }

def smallSchema : Schema :=
  ⟨["Person", "Account", "Loan"], []⟩

def smallSurroundings : Surroundings ℚ ChaCha where
  service := .simulated smallSchema []
  judges := keylessJudges
  source := ChaCha.ofSeed
  cancellation := .never

theorem exists_small_root (judges : List JudgeKind) :
    ∃ dataset root,
      synthesize "Find accounts" smallSchema (smallConfig judges).dataset
        (smallSurroundings.source 0) = .ok dataset ∧
      rootBlueprint "Find accounts" (smallConfig judges) (inferIntents "Find accounts" smallSchema)
        [] = .ok root := by
  have hdataset : (synthesize "Find accounts" smallSchema smallDataset
      (ChaCha.ofSeed 0)).isOk = true := by decide +kernel
  have hroot : (Blueprint.initial rootBlueprintId "flowforge" "Find accounts" []
      .plannerWorkerReviewer).isOk = true := by decide +kernel
  obtain ⟨dataset, hdataset⟩ := exists_eq_ok_of_isOk hdataset
  obtain ⟨root, hroot⟩ := exists_eq_ok_of_isOk hroot
  refine ⟨dataset, root, hdataset, ?_⟩
  simp only [rootBlueprint, rankTools, List.map_nil, List.mergeSort_nil, List.take_nil]
  exact hroot

theorem checkedConfig_small {judges : List JudgeKind}
    (hvalid : (smallConfig judges).validate = .ok ()) :
    checkedConfig "Find accounts" (smallConfig judges) = (smallConfig judges, .ok none) := by
  have htask : (Text.trim "Find accounts").isEmpty = false := by decide +kernel
  exact checkedConfig_eq_ok_iff.mpr ⟨rfl, hvalid, htask⟩

theorem exists_small_reached :
    ∃ p : Prepared ℚ, p.Reached smallSurroundings "Find accounts"
      (smallConfig [.rule, .heuristic]) 0 := by
  obtain ⟨dataset, root, hdataset, hroot⟩ := exists_small_root [.rule, .heuristic]
  obtain ⟨⟨⟩, hvalid⟩ : ∃ u, (smallConfig [.rule, .heuristic]).validate = .ok u :=
    exists_eq_ok_of_isOk (by decide +kernel)
  obtain ⟨evaluator, hevaluator⟩ : ∃ evaluator, Evaluator.ofConfig smallSurroundings.service
      smallSurroundings.judges (smallConfig [.rule, .heuristic]).search = .ok evaluator := ⟨_, rfl⟩
  exact ⟨⟨none, smallConfig [.rule, .heuristic], smallSchema, [], dataset, root, evaluator⟩,
    checkedConfig_small hvalid, rfl, rfl, hdataset, hroot, hevaluator⟩

end WorkflowSearch
