import WorkflowSearch.Proofs.Config.Profile
import WorkflowSearch.Proofs.Evaluation.Replay
import WorkflowSearch.Proofs.Optimization.Stages
import WorkflowSearch.Proofs.Search.Executions
import WorkflowSearch.Proofs.Search.Lockstep

namespace WorkflowSearch

variable {α σ : Type} [Scalar α]

namespace SearchProblem

variable (problem : SearchProblem α) (service : Service α)

def withService : SearchProblem α :=
  { problem with evaluator := problem.evaluator.withService service }

/-- The service repeats the answers to the calls by then. -/
def Repeated (state : SearchState α σ) : Prop :=
  problem.evaluator.service.Repeats service state.history

variable {problem service}

theorem history_suffix_of_evaluate {node : Node α} {before after : History}
    (h : problem.evaluate node.blueprint before = ((node.train, node.validation), after)) :
    before <:+ after :=
  ⟨_, (problem.evaluate_spec h).1.symm⟩

theorem evaluate_withService {blueprint : Blueprint} {history : History}
    (h : problem.evaluator.service.Repeats service (problem.evaluate blueprint history).2) :
    (problem.withService service).evaluate blueprint history =
      problem.evaluate blueprint history := by
  unfold evaluate at h ⊢
  dsimp only at h ⊢
  by_cases hholdout : problem.config.useHoldout = true
  · simp only [hholdout, if_true] at h
    have htrain := h.of_suffix (problem.evaluator.history_suffix_evaluateCases blueprint
      problem.validation .validation _)
    simp only [withService, hholdout, if_true, Evaluator.evaluateCases_withService htrain,
      Evaluator.evaluateCases_withService h]
  · simp only [if_neg hholdout] at h
    simp only [withService, if_neg hholdout, Evaluator.evaluateCases_withService h]

theorem seeded_withService {root : Blueprint} {source : σ} {history : History}
    (h : problem.Repeated service (problem.seeded root source history)) :
    (problem.withService service).seeded root source history =
      problem.seeded root source history := by
  have hevaluate : (problem.withService service).evaluate root history =
      problem.evaluate root history := evaluate_withService h
  rw [seeded, hevaluate]
  rfl

theorem recordChild_withService {state : SearchState α σ} {round expansion : ℕ} {parent : Node α}
    {blueprint : Blueprint} {mutation : Mutation} {context : SearchContext α σ}
    (h : problem.evaluator.service.Repeats service (problem.evaluate blueprint state.history).2) :
    (problem.withService service).recordChild state round expansion parent blueprint mutation
        context =
      problem.recordChild state round expansion parent blueprint mutation context := by
  rw [recordChild, evaluate_withService h]
  rfl

variable [RandomSource σ] {before after : SearchState α σ}

theorem Reaches.history_suffix (h : problem.Reaches before after) :
    before.history <:+ after.history :=
  h.induction (P := fun state ↦ before.history <:+ state.history)
    (fun hrecorded hbefore ↦ hbefore.trans (history_suffix_of_evaluate hrecorded.evaluated))
    List.suffix_rfl

theorem Expansion.withService {round expansion id : ℕ}
    (h : problem.Expansion round expansion id before after)
    (hrepeated : problem.Repeated service after) :
    (problem.withService service).Expansion round expansion id before after := by
  obtain ⟨hselected, hroom, hchosen, hderived, hrecorded⟩ := h
  obtain ⟨child, entry, hexpanded, rfl, -⟩ := problem.expanded_of_recordChild hrecorded
  have hcalls : problem.evaluator.service.Repeats service
      (problem.evaluate child.blueprint before.history).2 := by
    rw [hexpanded.evaluated]
    exact hrepeated
  exact ⟨hselected, hroom, hchosen, hderived, (recordChild_withService hcalls).trans hrecorded⟩

theorem follows_withService (problem : SearchProblem α) (service : Service α) :
    problem.Follows (problem.withService service) id (problem.Repeated service (σ := σ)) where
  config := rfl
  families := rfl
  train := rfl
  cancellation := rfl
  tree _ := rfl
  bestSelection _ := rfl
  history _ := rfl
  earlier hreaches hrepeated := hrepeated.of_suffix hreaches.history_suffix
  expansion _ hexpansion hrepeated := hexpansion.withService hrepeated

variable {root : Blueprint} {source : σ} {history : History} {outcome : SearchOutcome α σ}

theorem history_suffix_of_run (h : problem.run root source history = .ok outcome) :
    history <:+ outcome.final.history := by
  obtain ⟨node, hseeded⟩ := problem.exists_seeded root source history
  exact (history_suffix_of_evaluate hseeded.evaluated).trans (reaches_of_run h).2.history_suffix

theorem run_withService (h : problem.run root source history = .ok outcome)
    (hrepeated : problem.Repeated service outcome.final) :
    (problem.withService service).run root source history = .ok outcome :=
  (problem.follows_withService service).run_eq seeded_withService h hrepeated

end SearchProblem

section TestSplit

variable {evaluator : Evaluator α} {service : Service α} {cancellation : Cancellation}
  {dataset : Dataset α} {budget : ℕ} {blueprint : Blueprint} {history : History}

theorem history_suffix_testEvaluation :
    history <:+
      (testEvaluation evaluator cancellation dataset budget blueprint history).2 := by
  unfold testEvaluation
  dsimp only
  split
  · exact List.suffix_rfl
  · exact evaluator.history_suffix_evaluateCases blueprint _ .test history

theorem testEvaluation_withService
    (h : evaluator.service.Repeats service
      (testEvaluation evaluator cancellation dataset budget blueprint history).2) :
    testEvaluation (evaluator.withService service) cancellation dataset budget blueprint history =
      testEvaluation evaluator cancellation dataset budget blueprint history := by
  unfold testEvaluation at h ⊢
  dsimp only at h ⊢
  split
  · rfl
  · next hdone =>
    rw [if_neg hdone] at h
    rw [Evaluator.evaluateCases_withService h]

end TestSplit

omit [Scalar α] in
theorem Evaluator.ofConfig_withService {service : Service α} {source : JudgeSource α}
    {config : SearchConfig α} {evaluator : Evaluator α}
    (h : ofConfig service source config = .ok evaluator) (service' : Service α) :
    evaluator.service = service ∧
      ofConfig service' source config = .ok (evaluator.withService service') := by
  obtain ⟨ensemble, hensemble, h⟩ := bind_eq_ok_iff.mp h
  obtain rfl := Except.ok.inj h
  refine ⟨rfl, ?_⟩
  rw [ofConfig, hensemble]
  rfl

namespace Prepared

variable [RandomSource σ] {surroundings : Surroundings α σ} {task : String} {config : Config α}
  {seed : ℕ} {p : Prepared α} {service : Service α}

def withService (p : Prepared α) (service : Service α) : Prepared α :=
  { p with evaluator := p.evaluator.withService service }

theorem Reached.withService (h : p.Reached surroundings task config seed)
    (hrepeats : surroundings.service.Repeats service [.catalog, .schema]) :
    (p.withService service).Reached { surroundings with service } task p.config seed := by
  obtain ⟨hresolve, hvalid, htask⟩ := checkedConfig_eq_ok_iff.mp h.checked
  have hagain := Config.resolveProfile_eq_ok_iff.mpr
    (Config.resolveProfile_eq_ok_iff.mp hresolve).again
  have hschema : service.schema [] = surroundings.service.schema [] :=
    hrepeats .schema [] (List.suffix_cons ..)
  have hcatalog : service.catalog [.schema] = surroundings.service.catalog [.schema] :=
    hrepeats .catalog [.schema] List.suffix_rfl
  exact
    { checked := checkedConfig_eq_ok_iff.mpr ⟨hagain, hvalid, htask⟩
      schema := hschema.trans h.schema
      catalog := hcatalog.trans h.catalog
      dataset := h.dataset
      root := h.root
      evaluator := (Evaluator.ofConfig_withService h.evaluator service).2 }

omit [RandomSource σ] in
theorem result_withService {outcome : SearchOutcome α σ} {best : Node α}
    (h : p.evaluator.service.Repeats service
      (p.result surroundings task seed outcome best).history) :
    (p.withService service).result { surroundings with service } task seed outcome best =
      p.result surroundings task seed outcome best := by
  have htest := testEvaluation_withService h
  unfold result
  simp only [withService, htest]

end Prepared

/-- The reported configuration reproduces a run. What a configuration is resolved to is resolved to
itself, with the same profile; and an optimization by the configuration of a result has the same
result, with any service that gives the calls of the run the same answers. -/
theorem optimize_reproduces [RandomSource σ] (surroundings : Surroundings α σ) (task : String)
    (config : Config α) (seed : ℕ) :
    (∀ resolved profile?, config.resolveProfile = (resolved, .ok profile?) →
      resolved.resolveProfile = (resolved, .ok profile?)) ∧
    ∀ result, optimize surroundings task config seed = .ok result →
      ∀ service, surroundings.service.Repeats service result.history →
        optimize { surroundings with service } task result.config seed = .ok result := by
  refine ⟨fun resolved profile? h ↦ ?_, fun result h service hrepeats ↦ ?_⟩
  · exact Config.resolveProfile_eq_ok_iff.mpr (Config.resolveProfile_eq_ok_iff.mp h).again
  · obtain ⟨p, hp, outcome, best, hrun, hbest, rfl⟩ := exists_prepared_of_optimize h
    obtain ⟨hservice, -⟩ := Evaluator.ofConfig_withService hp.evaluator service
    rw [← hservice] at hrepeats
    have hfinal : p.evaluator.service.Repeats service outcome.final.history :=
      hrepeats.of_suffix history_suffix_testEvaluation
    have hstages := hfinal.of_suffix (SearchProblem.history_suffix_of_run hrun)
    rw [hservice] at hstages
    obtain ⟨outcome', best', hrun', hbest', hoptimize⟩ := (hp.withService hstages).optimize_eq
    obtain rfl : outcome = outcome' :=
      Except.ok.inj ((SearchProblem.run_withService hrun hfinal).symm.trans hrun')
    obtain rfl : best = best' := Option.some.inj (hbest.symm.trans hbest')
    rw [Prepared.result_withService hrepeats] at hoptimize
    exact hoptimize

def profiledConfig : Config ℚ :=
  { smallConfig [.rule, .heuristic] with profile := some Profile.ablationSingleJudge.name }

/-- The small service, but it answers to no case before anything was fetched. -/
def fetchedService : Service ℚ :=
  { smallSurroundings.service with
    execute := fun history blueprint case ↦
      if history = [] then ⟨0, .error (.invocation "nothing fetched")⟩
      else smallSurroundings.service.execute history blueprint case }

theorem fetchedService_repeats {history : History} (h : [.catalog, .schema] <:+ history) :
    smallSurroundings.service.Repeats fetchedService history := by
  intro call earlier hcall
  cases call with
  | schema => rfl
  | catalog => rfl
  | execute blueprint case =>
    refine if_neg ?_
    rintro rfl
    have hfirst := hcall.getLast (List.cons_ne_nil _ _)
    have hschema := h.getLast (List.cons_ne_nil _ _)
    cases hfirst.trans hschema.symm

theorem exists_profiled_reached :
    ∃ p : Prepared ℚ, p.Reached smallSurroundings "Find accounts" profiledConfig 0 ∧
      p.profile = some .ablationSingleJudge := by
  obtain ⟨dataset, root, hdataset, hroot⟩ := exists_small_root [.heuristic]
  have hvalid : (Profile.ablationSingleJudge.apply profiledConfig).validate = .ok () :=
    eq_ok_of_isOk (by decide +kernel)
  have htask : (Text.trim "Find accounts").isEmpty = false := by decide +kernel
  have hresolve := Config.resolveProfile_eq_ok_iff.mpr
    (.applied rfl Profile.ablationSingleJudge.ofName_name hvalid)
  obtain ⟨evaluator, hevaluator⟩ : ∃ evaluator, Evaluator.ofConfig smallSurroundings.service
      smallSurroundings.judges (Profile.ablationSingleJudge.apply profiledConfig).search =
        .ok evaluator := ⟨_, rfl⟩
  exact ⟨⟨_, _, smallSchema, [], dataset, root, evaluator⟩,
    ⟨checkedConfig_eq_ok_iff.mpr ⟨hresolve, hvalid, htask⟩, rfl, rfl, hdataset, hroot, hevaluator⟩,
    rfl⟩

theorem profiledConfig_reproduces :
    ∃ result, optimize smallSurroundings "Find accounts" profiledConfig 0 = .ok result ∧
      result.config.resolveProfile = (result.config, .ok (some .ablationSingleJudge)) ∧
      optimize { smallSurroundings with service := fetchedService } "Find accounts" result.config 0 =
        .ok result := by
  obtain ⟨p, hp, hprofile⟩ := exists_profiled_reached
  obtain ⟨outcome, best, hrun, -, hresult⟩ := hp.optimize_eq
  obtain ⟨hagain, hsame⟩ := optimize_reproduces smallSurroundings "Find accounts" profiledConfig 0
  have hresolve := (checkedConfig_eq_ok_iff.mp hp.checked).1
  rw [hprofile] at hresolve
  have hhistory : [.catalog, .schema] <:+ (p.result smallSurroundings "Find accounts" 0 outcome
      best).history :=
    (SearchProblem.history_suffix_of_run hrun).trans history_suffix_testEvaluation
  exact ⟨_, hresult, hagain _ _ hresolve,
    hsame _ hresult fetchedService (fetchedService_repeats hhistory)⟩

end WorkflowSearch
