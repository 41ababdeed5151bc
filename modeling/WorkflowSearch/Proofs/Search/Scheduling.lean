import WorkflowSearch.Proofs.Evaluation.FailureAccounting
import WorkflowSearch.Proofs.Search.Capacity

namespace WorkflowSearch

variable {α σ : Type}

section Choice

variable {families : List MutationFamily} {aware : Bool} {round expansion : ℕ}
  {dominant : Option FailureCategory} {family : MutationFamily}

/-- The families that may be chosen for an expansion: the one whose turn it is, and with
failure-aware scheduling the one that the dominant failure implicates. -/
inductive MayChoose (families : List MutationFamily) (aware : Bool) (round expansion : ℕ)
    (dominant : Option FailureCategory) : MutationFamily → Prop
  | rotation {family : MutationFamily} (turn : rotation? families round expansion = some family) :
      MayChoose families aware round expansion dominant family
  | implicated {category : FailureCategory} (aware_eq : aware = true)
      (dominates : dominant = some category) (mem : category.implicatedFamily ∈ families) :
      MayChoose families aware round expansion dominant category.implicatedFamily

/-- A choice between two families, which is drawn: a failure dominates, and the family that it
implicates is among those that take turns. -/
def Contested (families : List MutationFamily) (aware : Bool)
    (dominant : Option FailureCategory) : Prop :=
  aware = true ∧ ∃ category, dominant = some category ∧ category.implicatedFamily ∈ families

theorem MayChoose.mem (h : MayChoose families aware round expansion dominant family) :
    family ∈ families := by
  cases h with
  | rotation hturn => exact List.mem_of_getElem? hturn
  | implicated _ _ hmem => exact hmem

theorem MayChoose.turn_or_implicated
    (h : MayChoose families aware round expansion dominant family) :
    rotation? families round expansion = some family ∨
      ∃ category, dominant = some category ∧ category.implicatedFamily = family := by
  cases h with
  | rotation hturn => exact .inl hturn
  | implicated _ hdominates _ => exact .inr ⟨_, hdominates, rfl⟩

theorem MayChoose.turn (h : MayChoose families aware round expansion dominant family)
    (hcontest : ¬ Contested families aware dominant) :
    rotation? families round expansion = some family := by
  cases h with
  | rotation hturn => exact hturn
  | implicated haware hdominates hmem =>
    exact absurd ⟨haware, _, hdominates, hmem⟩ hcontest

variable [RandomSource σ] {source source' : σ}

theorem mayChoose_of_chooseFamily?
    (h : chooseFamily? families aware round expansion dominant source = (some family, source')) :
    MayChoose families aware round expansion dominant family := by
  unfold chooseFamily? at h
  dsimp only at h
  split at h
  · exact .rotation (Prod.mk.inj h).1
  · next implicated himplicated =>
    obtain ⟨hmap, hallowed⟩ := Option.filter_eq_some_iff.mp himplicated
    obtain ⟨category, hdominates, rfl⟩ := Option.map_eq_some_iff.mp hmap
    obtain ⟨haware, hmem⟩ := Bool.and_eq_true_iff.mp hallowed
    obtain ⟨hchosen, -⟩ := Prod.mk.inj h
    split at hchosen
    · obtain rfl := Option.some.inj hchosen
      exact .implicated haware hdominates (List.contains_iff_mem.mp hmem)
    · exact .rotation hchosen

theorem chooseFamily?_of_not_contested (h : ¬ Contested families aware dominant) (source : σ) :
    chooseFamily? families aware round expansion dominant source =
      (rotation? families round expansion, source) := by
  have hnone : (dominant.map FailureCategory.implicatedFamily).filter
      (fun family ↦ aware && families.contains family) = none := by
    rw [Option.filter_eq_none_iff]
    intro family hfamily hallowed
    obtain ⟨category, hdominates, rfl⟩ := Option.map_eq_some_iff.mp hfamily
    obtain ⟨haware, hmem⟩ := Bool.and_eq_true_iff.mp hallowed
    exact h ⟨haware, category, hdominates, List.contains_iff_mem.mp hmem⟩
  simp only [chooseFamily?, hnone]

end Choice

section Failures

variable [Scalar α]

theorem Evaluator.dominantFailure?_evaluateCases_eq_none_iff (evaluator : Evaluator α)
    (blueprint : Blueprint) (cases : List Case) (split : Split) (history : History) :
    let summary := (evaluator.evaluateCases blueprint cases split history).1
    summary.dominantFailure? = none ↔ summary.lowScoring evaluator.lowScoreThreshold = [] := by
  intro summary
  have hfailures : summary.failures = tally FailureCategory.all
      ((summary.lowScoring evaluator.lowScoreThreshold).map (·.failureCategory)) :=
    ofSignals_failureSignals evaluator.lowScoreThreshold summary.executions
  rw [Summary.dominantFailure?_eq hfailures, mostFrequent?_eq_none_iff,
    tally_eq_nil_iff FailureCategory.mem_all, List.map_eq_nil_iff]

end Failures

namespace SearchProblem

variable (problem : SearchProblem α)

def Runnable : MutationFamily → Prop
  | .prompt => problem.config.enablePromptMutation = true
  | .tool => problem.config.enableToolMutation = true ∧ problem.catalog ≠ []
  | .topology => problem.config.enableTopologyMutation = true

theorem mem_families_iff {family : MutationFamily} :
    family ∈ problem.families ↔ problem.Runnable family := by
  have hall : family ∈ MutationFamily.all := by cases family <;> decide
  rw [families, SearchConfig.families, List.mem_filter, and_iff_right hall]
  cases family with
  | prompt => exact Iff.rfl
  | tool => simp [Runnable]
  | topology => exact Iff.rfl

def Scheduled (node : Node α) (entry : TraceEntry α) : Prop :=
  MayChoose problem.families problem.config.failureAwareScheduling entry.round entry.expansion
    node.train.dominantFailure? entry.mutation.family

variable {problem} [Scalar α]

theorem train_eq_of_evaluate {node : Node α} {before after : History}
    (h : problem.evaluate node.blueprint before = ((node.train, node.validation), after)) :
    node.train =
      (problem.evaluator.evaluateCases node.blueprint problem.train .train before).1 := by
  have hfst := congrArg (fun result ↦ result.1.1) h
  unfold evaluate at hfst
  dsimp only at hfst
  split at hfst
  · exact hfst.symm
  · exact hfst.symm

theorem dominantFailure?_eq_none_iff_of_evaluate {node : Node α} {before after : History}
    (h : problem.evaluate node.blueprint before = ((node.train, node.validation), after)) :
    node.train.dominantFailure? = none ↔
      node.train.lowScoring problem.evaluator.lowScoreThreshold = [] := by
  rw [train_eq_of_evaluate h]
  exact problem.evaluator.dominantFailure?_evaluateCases_eq_none_iff ..

variable [RandomSource σ] {root : Blueprint} {source : σ} {history : History}
  {before after state : SearchState α σ}

theorem Expansion.exists_scheduled {round expansion id : ℕ}
    (h : problem.Expansion round expansion id before after) :
    ∃ parent child entry, before.tree.get? id = some parent ∧
      problem.Expanded round expansion before after parent child entry ∧
      problem.Scheduled parent entry := by
  obtain ⟨hselected, -, hchosen, hderived, hrecord⟩ := h
  obtain ⟨child, entry, hexpanded, rfl, rfl⟩ := problem.expanded_of_recordChild hrecord
  refine ⟨_, child, entry, hselected, hexpanded, ?_⟩
  have hfamily := problem.mutator.family_of_apply _ (congrArg Prod.fst hderived)
  rw [Scheduled, hexpanded.round, hexpanded.expansion, hfamily]
  exact mayChoose_of_chooseFamily? hchosen

theorem Reaches.scheduled (h : problem.Reaches (problem.seeded root source history) state) :
    ∀ entry ∈ state.traces, ∃ node, state.tree.created[entry.selectedNode]? = some node ∧
      problem.Scheduled node entry := by
  induction h with
  | refl =>
    obtain ⟨node, hseeded⟩ := problem.exists_seeded root source history
    rw [hseeded.traces]
    exact List.forall_mem_nil _
  | tail hbefore hlast ih =>
    obtain ⟨round, expansion, id, hlast⟩ := hlast
    obtain ⟨parent, child, entry, hselected, hexpanded, hscheduled⟩ := hlast.exists_scheduled
    obtain rfl : parent.id = id := (Reaches.grown hbefore).wellFormed.id_eq hselected
    rw [hexpanded.traces, hexpanded.created, List.forall_mem_append, List.forall_mem_singleton]
    constructor
    · intro old hold
      obtain ⟨node, hnode, hold⟩ := ih old hold
      have hlt := (List.getElem?_eq_some_iff.mp hnode).1
      exact ⟨node, by rwa [List.getElem?_append_left hlt], hold⟩
    · have hparent := hexpanded.created_parent hselected
      rw [hexpanded.created] at hparent
      exact ⟨parent.asCreated, hparent, hscheduled⟩

theorem Reaches.dominantFailure?_eq_none_iff
    (h : problem.Reaches (problem.seeded root source history) state) :
    ∀ node ∈ state.tree.nodes, node.train.dominantFailure? = none ↔
      node.train.lowScoring problem.evaluator.lowScoreThreshold = [] := by
  intro node hnode
  obtain ⟨_, _, hevaluate⟩ := h.exists_evaluate node hnode
  exact dominantFailure?_eq_none_iff_of_evaluate hevaluate

/-- The schedule of a run. Every expansion uses a family that can run; of these, in their order, it is
the one whose turn it is in the round and the expansion, unless failures are looked at and the
dominant one of the selected node implicates another family. A node without a low-scoring train case
has no such failure, and a family that cannot run is never put first. -/
theorem run_schedules {outcome : SearchOutcome α σ}
    (h : problem.run root source history = .ok outcome) :
    let families := problem.families
    families.Sublist [.prompt, .tool, .topology] ∧
    (∀ family, family ∈ families ↔ problem.Runnable family) ∧
    ∀ entry ∈ outcome.final.traces,
      let family := entry.mutation.family
      let inTurn := families[(entry.round + entry.expansion) % families.length]?
      ∃ node, outcome.final.tree.get? entry.selectedNode = some node ∧
        problem.Runnable family ∧
        (problem.config.failureAwareScheduling = false → inTurn = some family) ∧
        (problem.config.failureAwareScheduling = true → inTurn = some family ∨
          ∃ category, node.train.dominantFailure? = some category ∧
            category.implicatedFamily = family) ∧
        (node.train.lowScoring problem.evaluator.lowScoreThreshold = [] →
          inTurn = some family) ∧
        ∀ category, node.train.dominantFailure? = some category →
          ¬ problem.Runnable category.implicatedFamily → inTurn = some family := by
  intro families
  obtain ⟨-, hreaches⟩ := reaches_of_run h
  refine ⟨List.filter_sublist, fun _ ↦ problem.mem_families_iff, fun entry hentry ↦ ?_⟩
  intro family inTurn
  obtain ⟨node', hnode, hscheduled⟩ := hreaches.scheduled entry hentry
  rw [Tree.get?_created, Option.map_eq_some_iff] at hnode
  obtain ⟨node, hnode, rfl⟩ := hnode
  have hchoice : MayChoose families problem.config.failureAwareScheduling entry.round
    entry.expansion node.train.dominantFailure? family := hscheduled
  refine ⟨node, hnode, problem.mem_families_iff.mp hchoice.mem, fun hblind ↦ ?_,
    fun _ ↦ hchoice.turn_or_implicated, fun hlow ↦ ?_, fun category hdominates hstuck ↦ ?_⟩
  · refine hchoice.turn ?_
    rintro ⟨haware, -⟩
    rw [hblind] at haware
    cases haware
  · refine hchoice.turn ?_
    rintro ⟨-, category, hdominates, -⟩
    rw [(hreaches.dominantFailure?_eq_none_iff node (List.mem_of_getElem? hnode)).mpr hlow]
      at hdominates
    cases hdominates
  · refine hchoice.turn ?_
    rintro ⟨-, category', hdominates', hmem⟩
    obtain rfl := Option.some.inj (hdominates.symm.trans hdominates')
    exact hstuck (problem.mem_families_iff.mp hmem)

end SearchProblem

def blindProblem : SearchProblem ℚ :=
  { simulatedProblem with
    config := { simulatedProblem.config with failureAwareScheduling := false } }

theorem blindProblem_train_ne_nil : blindProblem.train ≠ [] :=
  simulatedProblem_train_ne_nil

theorem blindProblem_valid : blindProblem.config.Valid :=
  (SearchConfig.validate_eq_ok_iff _).mp (eq_ok_of_isOk (by decide +kernel))

/-- In the first expansion of the first round it is the turn of the second family. -/
theorem blindProblem_schedules :
    ∃ outcome, blindProblem.run simulatedRoot (ChaCha.ofSeed 0) [] = .ok outcome ∧
      ∃ entry ∈ outcome.final.traces,
        entry.round = 1 ∧ entry.expansion = 0 ∧ entry.mutation.family = .tool := by
  have hfamilies : blindProblem.families = [.prompt, .tool, .topology] := by decide +kernel
  obtain ⟨outcome, houtcome, -⟩ := SearchProblem.run_reaches blindProblem_train_ne_nil
    simulatedRoot (ChaCha.ofSeed 0) []
  obtain ⟨-, -, hentries⟩ := SearchProblem.run_schedules houtcome
  obtain ⟨entry, hentry, hround, hexpansion⟩ := SearchProblem.exists_first_entry
    blindProblem_valid (hfamilies ▸ List.cons_ne_nil _ _) houtcome rfl
  obtain ⟨node, -, -, hturn, -⟩ := hentries entry hentry
  have hfamily := hturn rfl
  rw [hfamilies, hround, hexpansion] at hfamily
  exact ⟨outcome, houtcome, entry, hentry, hround, hexpansion, (Option.some.inj hfamily).symm⟩

end WorkflowSearch
