import WorkflowSearch.Proofs.Search.Improvements
import WorkflowSearch.Proofs.Search.Lockstep
import WorkflowSearch.Proofs.Search.Scheduling

namespace WorkflowSearch

variable {α σ τ : Type}

section Sources

variable [Scalar α]

def SearchContext.withSource (context : SearchContext α σ) (source : τ) : SearchContext α τ where
  gains := context.gains
  variants := context.variants
  source := source
  nextBlueprint := context.nextBlueprint

def SearchState.withSource (state : SearchState α σ) (source : τ) : SearchState α τ where
  tree := state.tree
  bestNode := state.bestNode
  bestSelection := state.bestSelection
  bestTrain := state.bestTrain
  context := state.context.withSource source
  traces := state.traces
  history := state.history

def SearchOutcome.withSource (outcome : SearchOutcome α σ) (source : τ) : SearchOutcome α τ where
  final := outcome.final.withSource source
  stopReason := outcome.stopReason
  roundsCompleted := outcome.roundsCompleted

theorem Mutator.apply_withSource (mutator : Mutator α) (family : MutationFamily)
    (parent : Blueprint) (parentTrain : Summary α) (childId : String)
    (context : SearchContext α σ) (source : τ) :
    mutator.apply family parent parentTrain childId (context.withSource source) =
      (mutator.apply family parent parentTrain childId context).map id (·.withSource source) := by
  cases family with
  | tool => rfl
  | topology => rfl
  | prompt =>
    simp only [apply, revisePrompt]
    split <;> rfl

end Sources

namespace SearchProblem

variable [Scalar α] (problem : SearchProblem α)

theorem seeded_withSource (root : Blueprint) (source : σ) (source' : τ) (history : History) :
    problem.seeded root source' history =
      (problem.seeded root source history).withSource source' :=
  rfl

theorem deriveChild_withSource (family : MutationFamily) (node : Node α)
    (context : SearchContext α σ) (source : τ) :
    problem.deriveChild family node (context.withSource source) =
      (problem.deriveChild family node context).map id (·.withSource source) :=
  problem.mutator.apply_withSource family node.blueprint node.train context.nextBlueprintId.1
    context.nextBlueprintId.2 source

theorem recordChild_withSource (state : SearchState α σ) (round expansion : ℕ) (parent : Node α)
    (blueprint : Blueprint) (mutation : Mutation) (context : SearchContext α σ) (source : τ) :
    problem.recordChild (state.withSource source) round expansion parent blueprint mutation
        (context.withSource source) =
      (problem.recordChild state round expansion parent blueprint mutation context).map
        (·.withSource source) := by
  simp only [recordChild, SearchState.withSource]
  cases state.tree.addChild? parent.id blueprint mutation
    (problem.evaluate blueprint state.history).1.1
    (problem.evaluate blueprint state.history).1.2 with
  | none => rfl
  | some _ => rfl

/-- Of the nodes that the log names as selected none has a failure that contests the turn of a
family. -/
def Uncontested (state : SearchState α σ) : Prop :=
  ∀ entry ∈ state.traces, ∀ node, state.tree.created[entry.selectedNode]? = some node →
    ¬ Contested problem.families problem.config.failureAwareScheduling node.train.dominantFailure?

variable {problem}

section Steps

variable [RandomSource σ] [RandomSource τ] {root : Blueprint} {before after : SearchState α σ}

theorem Uncontested.of_reaches (h : problem.Uncontested after)
    (hreaches : problem.Reaches before after) : problem.Uncontested before := by
  obtain ⟨later, hcreated⟩ := hreaches.prefix_created
  intro entry hentry node hnode
  have hlt := (List.getElem?_eq_some_iff.mp hnode).1
  refine h entry (hreaches.prefix_traces.subset hentry) node ?_
  rw [← hcreated, List.getElem?_append_left hlt, hnode]

theorem Expansion.withSource {round expansion id : ℕ}
    (h : problem.Expansion round expansion id before after) (hgrown : problem.Grown root before.tree)
    (huncontested : problem.Uncontested after) (source : τ) :
    problem.Expansion round expansion id (before.withSource source) (after.withSource source) := by
  obtain @⟨parent, family, _, blueprint, mutation, context, hselected, hroom, hchosen, hderived,
    hrecorded⟩ := h
  obtain ⟨child, entry, hexpanded, -⟩ := problem.expanded_of_recordChild hrecorded
  obtain rfl : parent.id = id := hgrown.wellFormed.id_eq hselected
  have hentry : entry ∈ after.traces := by
    rw [hexpanded.traces]
    exact List.mem_append_right _ (List.mem_singleton_self entry)
  have hturn : ¬ Contested problem.families problem.config.failureAwareScheduling
      parent.train.dominantFailure? :=
    huncontested entry hentry parent.asCreated (hexpanded.created_parent hselected)
  rw [chooseFamily?_of_not_contested hturn] at hchosen
  obtain ⟨hrotation, rfl⟩ := Prod.mk.inj hchosen
  have hderive := problem.deriveChild_withSource family parent before.context source
  have hrecord := problem.recordChild_withSource before round expansion parent blueprint mutation
    context source
  rw [hrecorded] at hrecord
  exact ⟨hselected, hroom,
    (chooseFamily?_of_not_contested hturn source).trans (congrArg (·, source) hrotation),
    hderive.trans (congrArg (Prod.map id (·.withSource source)) hderived), hrecord⟩

theorem follows_withSource (problem : SearchProblem α) (source : τ) :
    problem.Follows problem (·.withSource source) (problem.Uncontested (σ := σ)) where
  config := rfl
  families := rfl
  train := rfl
  cancellation := rfl
  tree _ := rfl
  bestSelection _ := rfl
  history _ := rfl
  earlier hreaches huncontested := huncontested.of_reaches hreaches
  expansion hgrown hexpansion huncontested := hexpansion.withSource hgrown huncontested source

end Steps

section Runs

variable [RandomSource σ] [RandomSource τ] {root : Blueprint} {source : σ} {history : History}
  {outcome : SearchOutcome α σ}

theorem run_withSource (h : problem.run root source history = .ok outcome)
    (huncontested : problem.Uncontested outcome.final) (source' : τ) :
    problem.run root source' history = .ok (outcome.withSource source') :=
  (problem.follows_withSource source').run_eq
    (fun _ ↦ problem.seeded_withSource root source source' history) h huncontested

/-- Chance matters only where failures do. Without failure-aware scheduling a run is the same for all
sources, and with it a run is the same for all as soon as it is one in which no selected node has a
dominant failure that implicates a family that can run; either way the source is left untouched. -/
theorem run_ignores_source (root : Blueprint) (source : σ) (source' : τ) (history : History) :
    (problem.config.failureAwareScheduling = false →
      problem.run root source' history =
        (problem.run root source history).map (·.withSource source')) ∧
    ∀ outcome, problem.run root source history = .ok outcome →
      (∀ entry ∈ outcome.final.traces, ∀ node,
        outcome.final.tree.get? entry.selectedNode = some node →
        ∀ category, node.train.dominantFailure? = some category →
          ¬ problem.Runnable category.implicatedFamily) →
      problem.run root source' history = .ok (outcome.withSource source') := by
  constructor
  · intro hblind
    by_cases htrain : problem.train = []
    · rw [run, run, htrain]
      rfl
    · obtain ⟨outcome, houtcome, -⟩ := run_reaches htrain root source history
      rw [houtcome]
      refine run_withSource houtcome ?_ source'
      rintro _ _ _ _ ⟨haware, -⟩
      rw [hblind] at haware
      cases haware
  · intro outcome houtcome hstuck
    refine run_withSource houtcome ?_ source'
    rintro entry hentry node' hnode ⟨-, category, hdominates, hmem⟩
    rw [Tree.get?_created, Option.map_eq_some_iff] at hnode
    obtain ⟨node, hnode, rfl⟩ := hnode
    exact hstuck entry hentry node hnode category hdominates (problem.mem_families_iff.mp hmem)

end Runs

end SearchProblem

theorem Evaluator.lowScoring_zero [RootedScalar α] {evaluator : Evaluator α}
    (hsound : evaluator.ensemble.Sound) (blueprint : Blueprint) (cases : List Case) (split : Split)
    (history : History) :
    (evaluator.evaluateCases blueprint cases split history).1.lowScoring 0 = [] := by
  rw [Summary.lowScoring, List.filter_eq_nil_iff]
  intro execution hexecution hlow
  have hmem : execution ∈ ((evaluator.runCases blueprint cases history).1.map (·.outcome)).filterMap
      CaseOutcome.execution? := hexecution
  have hrange := runCases_inRange hsound execution hmem
  exact absurd (of_decide_eq_true hlow) (not_lt.mpr hrange.score.1)

noncomputable def lenientConfig : SearchConfig ℝ :=
  { gradedConfig with lowScoreThreshold := 0 }

theorem lenientConfig_valid : lenientConfig.Valid :=
  { SearchConfig.default_valid (List.cons_ne_nil _ _) with
    lowScoreThreshold := by simp [lenientConfig, isWithin] }

noncomputable def lenientEvaluator : Evaluator ℝ :=
  { gradedEvaluator 1 with lowScoreThreshold := lenientConfig.lowScoreThreshold }

theorem lenientEvaluator_sound : lenientEvaluator.ensemble.Sound := by
  have hevaluator : Evaluator.ofConfig (.simulated simulatedSchema simulatedCatalog)
      (judgesGrading 1) lenientConfig = .ok lenientEvaluator := rfl
  exact Evaluator.sound_of_ofConfig lenientConfig_valid (judgesGrading_sound 1) hevaluator

noncomputable def lenientProblem : SearchProblem ℝ :=
  .ofDataset lenientEvaluator lenientConfig "Find accounts" (fixtureDataset 5) [.query]
    simulatedCatalog .never

theorem lenientProblem_train_ne_nil : lenientProblem.train ≠ [] :=
  gradedProblem_train_ne_nil 1

theorem lenientProblem_families_ne_nil : lenientProblem.families ≠ [] := by
  decide +kernel

theorem lenientProblem_dominantFailure? {source : ChaCha} {state : SearchState ℝ ChaCha}
    (h : lenientProblem.Reaches (lenientProblem.seeded simulatedRoot source []) state) :
    ∀ node ∈ state.tree.nodes, node.train.dominantFailure? = none := by
  intro node hnode
  obtain ⟨before, _, hevaluate⟩ := h.exists_evaluate node hnode
  rw [h.dominantFailure?_eq_none_iff node hnode, SearchProblem.train_eq_of_evaluate hevaluate]
  exact Evaluator.lowScoring_zero lenientEvaluator_sound ..

/-- Two seeds, first without a look at failures, then with one that finds none. -/
theorem lenientProblem_ignores_source :
    blindProblem.run simulatedRoot (ChaCha.ofSeed 1) [] =
        (blindProblem.run simulatedRoot (ChaCha.ofSeed 0) []).map (·.withSource (ChaCha.ofSeed 1)) ∧
      lenientProblem.config.failureAwareScheduling = true ∧
      ∃ outcome, lenientProblem.run simulatedRoot (ChaCha.ofSeed 0) [] = .ok outcome ∧
        outcome.final.traces ≠ [] ∧
        lenientProblem.run simulatedRoot (ChaCha.ofSeed 1) [] =
          .ok (outcome.withSource (ChaCha.ofSeed 1)) := by
  obtain ⟨hblind, -⟩ := blindProblem.run_ignores_source simulatedRoot (ChaCha.ofSeed 0)
    (ChaCha.ofSeed 1) []
  obtain ⟨-, hunfailed⟩ := lenientProblem.run_ignores_source simulatedRoot (ChaCha.ofSeed 0)
    (ChaCha.ofSeed 1) []
  obtain ⟨outcome, houtcome, hreaches⟩ := SearchProblem.run_reaches lenientProblem_train_ne_nil
    simulatedRoot (ChaCha.ofSeed 0) []
  obtain ⟨entry, hentry, -⟩ := SearchProblem.exists_first_entry lenientConfig_valid
    lenientProblem_families_ne_nil houtcome rfl
  refine ⟨hblind rfl, rfl, outcome, houtcome, List.ne_nil_of_mem hentry,
    hunfailed outcome houtcome fun _ _ node hnode category hdominates ↦ ?_⟩
  rw [lenientProblem_dominantFailure? hreaches node (List.mem_of_getElem? hnode)] at hdominates
  cases hdominates

end WorkflowSearch
