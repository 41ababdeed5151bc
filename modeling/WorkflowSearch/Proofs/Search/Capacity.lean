import WorkflowSearch.Proofs.Config.Validity
import WorkflowSearch.Proofs.Search.Log
import WorkflowSearch.Proofs.Search.Rounds

namespace WorkflowSearch

variable {α σ : Type} [Scalar α]

/-- Some children of a node come last in a tree, and an entry for each last in the log. -/
structure Extended (parent : ℕ) (before after : SearchState α σ) (children : List (Node α))
    (entries : List (TraceEntry α)) : Prop where
  created : after.tree.created = before.tree.created ++ children
  traces : after.traces = before.traces ++ entries
  parent_eq : ∀ child ∈ children, child.parent = some parent
  childNodes : entries.map (·.childNode) = children.map (·.id)
  selectedNode : ∀ entry ∈ entries, entry.selectedNode = parent

theorem Extended.refl (parent : ℕ) (state : SearchState α σ) :
    Extended parent state state [] [] :=
  ⟨(List.append_nil _).symm, (List.append_nil _).symm, by simp, rfl, by simp⟩

namespace SearchProblem

variable {problem : SearchProblem α}

theorem Expanded.extended {start before after : SearchState α σ} {round expansion : ℕ}
    {parent child : Node α} {entry : TraceEntry α} {children : List (Node α)}
    {entries : List (TraceEntry α)}
    (h : problem.Expanded round expansion before after parent child entry)
    (hbefore : Extended parent.id start before children entries) :
    Extended parent.id start after (children ++ [child]) (entries ++ [entry]) := by
  refine ⟨?_, ?_, ?_, ?_, ?_⟩
  · rw [h.created, hbefore.created, List.append_assoc]
  · rw [h.traces, hbefore.traces, List.append_assoc]
  · rw [List.forall_mem_append, List.forall_mem_singleton]
    exact ⟨hbefore.parent_eq, h.describes.parent⟩
  · rw [List.map_append, List.map_append, hbefore.childNodes, List.map_singleton,
      List.map_singleton, h.childNode]
  · rw [List.forall_mem_append, List.forall_mem_singleton]
    exact ⟨hbefore.selectedNode, h.describes.selectedNode⟩

variable [RandomSource σ]

theorem Expansion.room {round expansion parent : ℕ} {before after : SearchState α σ}
    (h : problem.Expansion round expansion parent before after) {node : Node α}
    (hnode : before.tree.get? parent = some node) :
    node.children.length < problem.config.maxChildren := by
  obtain ⟨hselected, hroom, -, -, -⟩ := h
  obtain rfl := Option.some.inj (hselected.symm.trans hnode)
  exact hroom

theorem Expansion.exists_grown {root : Blueprint} {round expansion parent : ℕ}
    {before after : SearchState α σ} (h : problem.Expansion round expansion parent before after)
    (hgrown : problem.Grown root before.tree) {node : Node α}
    (hnode : before.tree.get? parent = some node) :
    problem.Grown root after.tree ∧ ∃ node', after.tree.get? parent = some node' ∧
      node'.children.length = node.children.length + 1 := by
  obtain ⟨node', child, entry, hselected, hderives, hexpanded⟩ := h.exists_expanded
  obtain rfl := Option.some.inj (hselected.symm.trans hnode)
  obtain rfl := hgrown.wellFormed.id_eq hnode
  have hafter := hgrown.expanded hnode hderives hexpanded
  have hlt : node'.id < after.tree.size := by
    have hold := (List.getElem?_eq_some_iff.mp hnode).1
    rw [← Tree.length_created, hexpanded.created, List.length_append, Tree.length_created]
    exact Nat.lt_add_right _ hold
  have hget : after.tree.get? node'.id = some after.tree.nodes[node'.id] :=
    List.getElem?_eq_getElem hlt
  refine ⟨hafter, _, hget, ?_⟩
  rw [hafter.wellFormed.children_eq hget, Tree.childIds_of_created hexpanded.created,
    if_pos hexpanded.describes.parent, ← hgrown.wellFormed.children_eq hnode, List.length_append,
    List.length_singleton]

theorem InRound.exists_extended {root : Blueprint} {round parent expansions : ℕ}
    {start state : SearchState α σ}
    (h : problem.InRound round parent start expansions state)
    (hgrown : problem.Grown root start.tree) :
    ∃ children entries, children.length = expansions ∧
      Extended parent start state children entries := by
  induction h with
  | start => exact ⟨[], [], rfl, .refl parent start⟩
  | next hprevious hlast ih =>
    obtain ⟨children, entries, hlength, hextended⟩ := ih
    obtain ⟨node, child, entry, hselected, -, hexpanded⟩ := hlast.exists_expanded
    obtain rfl := (hgrown.reaches hprevious.reaches).wellFormed.id_eq hselected
    refine ⟨children ++ [child], entries ++ [entry], ?_, hexpanded.extended hextended⟩
    rw [List.length_append, hlength, List.length_singleton]

/-- The expansions of a node use up what is left of the budget or the room of the node. -/
theorem expand_fills (hfamilies : problem.families ≠ []) {root : Blueprint}
    {round parent expansion : ℕ} {start state : SearchState α σ}
    (hstate : problem.InRound round parent start expansion state)
    (hgrown : problem.Grown root state.tree) {node : Node α}
    (hnode : state.tree.get? parent = some node) (left : ℕ) :
    ∃ after, problem.expand round parent left expansion state = .ok after ∧
      problem.InRound round parent start
        (expansion + min left (problem.config.maxChildren - node.children.length)) after := by
  induction left generalizing expansion state node with
  | zero =>
    rw [Nat.zero_min]
    exact ⟨state, rfl, hstate⟩
  | succ left ih =>
    by_cases hroom : node.children.length < problem.config.maxChildren
    · obtain ⟨next, hlast⟩ := hgrown.exists_expansion hfamilies hnode hroom round expansion
      obtain ⟨hgrown', node', hnode', hlength⟩ := hlast.exists_grown hgrown hnode
      obtain ⟨after, hafter, hround⟩ := ih (hstate.next hlast) hgrown' hnode'
      have hcount : expansion + 1 +
          min left (problem.config.maxChildren - node'.children.length) =
          expansion + min (left + 1) (problem.config.maxChildren - node.children.length) := by
        omega
      exact ⟨after, (hlast.expand_eq left).trans hafter, hcount ▸ hround⟩
    · have hfull : problem.config.maxChildren ≤ node.children.length := not_lt.mp hroom
      have hcount : min (left + 1) (problem.config.maxChildren - node.children.length) = 0 := by
        omega
      have hstop : problem.Full state parent := fun node' hnode' ↦ by
        obtain rfl := Option.some.inj (hnode.symm.trans hnode')
        exact hfull
      rw [hcount]
      exact ⟨state, expand_of_full hstop .., hstate⟩

theorem Round.inRound (hfamilies : problem.families ≠ []) {root : Blueprint} {round : ℕ}
    {before after : SearchState α σ} {node : Node α}
    (h : problem.Round round node.id before after) (hgrown : problem.Grown root before.tree)
    (hnode : before.tree.get? node.id = some node) :
    problem.InRound round node.id before
      (min problem.config.expansionsPerRound
        (problem.config.maxChildren - node.children.length)) after := by
  obtain ⟨after', hafter, hround⟩ :=
    expand_fills hfamilies .start hgrown hnode problem.config.expansionsPerRound
  obtain rfl := Except.ok.inj (h.expanded.symm.trans hafter)
  rwa [Nat.zero_add] at hround

theorem Round.exists_inRound (hfamilies : problem.families ≠ []) {round parent : ℕ}
    {before after : SearchState α σ} (h : problem.Round round parent before after) :
    ∃ expansions, problem.InRound round parent before expansions after := by
  obtain ⟨after', last, hafter, hround⟩ := expand_inRound hfamilies
    (.start : problem.InRound round parent before 0 before) problem.config.expansionsPerRound
  obtain rfl := Except.ok.inj (h.expanded.symm.trans hafter)
  exact ⟨last, hround⟩

theorem Round.exists_entries (hfamilies : problem.families ≠ []) {round parent : ℕ}
    {before after : SearchState α σ} (h : problem.Round round parent before after) :
    ∃ entries, after.traces = before.traces ++ entries ∧
      ∀ entry ∈ entries, entry.round = round := by
  obtain ⟨_, hround⟩ := h.exists_inRound hfamilies
  obtain ⟨entries, htraces, hplaces⟩ := hround.exists_entries
  exact ⟨entries, htraces, fun entry hentry ↦ round_eq_of_places hplaces hentry⟩

theorem Round.reaches (hfamilies : problem.families ≠ []) {round parent : ℕ}
    {before after : SearchState α σ} (h : problem.Round round parent before after) :
    problem.Reaches before after := by
  obtain ⟨_, hround⟩ := h.exists_inRound hfamilies
  exact hround.reaches

theorem Passes.reaches_later (hfamilies : problem.families ≠ []) {start final : SearchState α σ}
    {rounds : ℕ} {states : ℕ → SearchState α σ} (h : problem.Passes start rounds final states)
    {earlier later : ℕ} (hle : earlier ≤ later) (hlater : later ≤ rounds) :
    problem.Reaches (states earlier) (states later) := by
  induction later, hle using Nat.le_induction with
  | base => exact .refl
  | succ later _ ih =>
    obtain ⟨parent, hround⟩ := h.round later hlater
    exact (ih (Nat.le_of_succ_le hlater)).trans (hround.reaches hfamilies)

theorem Passes.reaches (hfamilies : problem.families ≠ []) {start final : SearchState α σ}
    {rounds : ℕ} {states : ℕ → SearchState α σ} (h : problem.Passes start rounds final states)
    {done : ℕ} (hdone : done ≤ rounds) : problem.Reaches start (states done) :=
  h.first ▸ h.reaches_later hfamilies (Nat.zero_le done) hdone

theorem AtBoundary.reaches (hfamilies : problem.families ≠ []) {start state : SearchState α σ}
    {done : ℕ} {stopper : EarlyStopper α} (h : problem.AtBoundary start done stopper state) :
    problem.Reaches start state := by
  obtain ⟨states, hstates⟩ := h.exists_passes
  exact hstates.last ▸ hstates.reaches hfamilies le_rfl

theorem Reaches.length_childIds_le {root : Blueprint} {source : σ} {history : History}
    {state : SearchState α σ} (h : problem.Reaches (problem.seeded root source history) state)
    (id : ℕ) : (state.tree.childIds id).length ≤ problem.config.maxChildren := by
  induction h with
  | refl =>
    obtain ⟨node, hseeded⟩ := problem.exists_seeded root source history
    rw [Tree.childIds_eq_created, hseeded.created]
    simp [hseeded.parent]
  | tail hbefore hlast ih =>
    obtain ⟨round, expansion, parent, hlast⟩ := hlast
    obtain ⟨node, child, entry, hselected, -, hexpanded⟩ := hlast.exists_expanded
    have hroom := hlast.room hselected
    have hformed := (Reaches.grown hbefore).wellFormed
    rw [Tree.childIds_of_created hexpanded.created, hexpanded.describes.parent,
      hformed.id_eq hselected, List.length_append]
    split
    · next hparent =>
      obtain rfl := Option.some.inj hparent
      rw [← hformed.children_eq hselected]
      exact hroom
    · exact ih

theorem Reaches.length_children_le {root : Blueprint} {source : σ} {history : History}
    {state : SearchState α σ} (h : problem.Reaches (problem.seeded root source history) state)
    {node : Node α} (hnode : node ∈ state.tree.nodes) :
    node.children.length ≤ problem.config.maxChildren := by
  have hformed := h.grown.wellFormed
  rw [hformed.children_eq (hformed.get?_of_mem hnode)]
  exact h.length_childIds_le node.id

theorem Reaches.exists_foremost [OrderedScalar α] (hvalid : problem.config.Valid)
    {root : Blueprint} {source : σ} {history : History} {state : SearchState α σ}
    (h : problem.Reaches (problem.seeded root source history) state) :
    ∃ node ∈ state.tree.expandable problem.config,
      state.tree.select? problem.config = some node.id ∧
      ((∀ other ∈ state.tree.expandable problem.config,
          confidenceBound state.tree other problem.config ≤
            confidenceBound state.tree other problem.config) →
        state.tree.Foremost problem.config node) :=
  h.grown.wellFormed.exists_foremost h.grown.nodes_ne_nil hvalid.maxChildren

/-- Some node has room at every boundary, so a run that exhausts its budget is one of all rounds. -/
theorem roundsCompleted_of_exhausted [OrderedScalar α] (hvalid : problem.config.Valid)
    (hfamilies : problem.families ≠ []) {root : Blueprint} {source : σ} {history : History}
    {outcome : SearchOutcome α σ} (h : problem.run root source history = .ok outcome)
    (hexhausted : outcome.stopReason = .budgetExhausted) :
    outcome.roundsCompleted = problem.config.rounds := by
  cases ends_of_run hfamilies h with
  | exhausted => rfl
  | cancelled => cases hexhausted
  | stopped => cases hexhausted
  | unselected hboundary _ _ hnone =>
    -- Some node has room at every boundary.
    obtain ⟨node, -, hselected, -⟩ := (hboundary.reaches hfamilies).exists_foremost hvalid
    exact absurd (hselected.symm.trans hnone) (Option.some_ne_none _)

section First

variable [OrderedScalar α] (hvalid : problem.config.Valid) (hfamilies : problem.families ≠ [])
  {root : Blueprint} {source : σ} {history : History} {outcome : SearchOutcome α σ}
  (h : problem.run root source history = .ok outcome)
  (hunseen : problem.cancellation (.beforeRound 1)
    (problem.seeded root source history).history = false)
include hvalid hfamilies h hunseen

theorem roundsCompleted_pos : 0 < outcome.roundsCompleted := by
  cases ends_of_run hfamilies h with
  | exhausted => exact Nat.pos_of_ne_zero hvalid.rounds
  | @cancelled done _ _ hboundary _ hseen =>
    refine Nat.pos_of_ne_zero fun hzero ↦ ?_
    obtain rfl : done = 0 := hzero
    obtain ⟨-, rfl⟩ := hboundary.eq .start
    rw [hunseen] at hseen
    cases hseen
  | unselected => exact roundsCompleted_of_exhausted hvalid hfamilies h rfl ▸
      Nat.pos_of_ne_zero hvalid.rounds
  | stopped => exact Nat.succ_pos _

theorem exists_first_entry :
    ∃ entry ∈ outcome.final.traces, entry.round = 1 ∧ entry.expansion = 0 := by
  have hdone := roundsCompleted_pos hvalid hfamilies h hunseen
  obtain ⟨states, hstates⟩ := (ends_of_run hfamilies h).exists_passes
  obtain ⟨parent, hround⟩ := hstates.round 0 hdone
  have hstart := hstates.reaches hfamilies (Nat.zero_le outcome.roundsCompleted)
  obtain ⟨node, hnode, hselected, -⟩ := hstart.exists_foremost hvalid
  obtain rfl : node.id = parent := Option.some.inj (hselected.symm.trans hround.selected)
  obtain ⟨hmem, hroom⟩ := Tree.mem_expandable.mp hnode
  have hin := hround.inRound hfamilies hstart.grown (hstart.grown.wellFormed.get?_of_mem hmem)
  obtain ⟨entries, htraces, hplaces⟩ := hin.exists_entries
  have hfirst : (1, 0) ∈ entries.map fun entry ↦ (entry.round, entry.expansion) := by
    rw [hplaces]
    refine List.mem_map_of_mem (List.mem_range.mpr (Nat.lt_min.mpr ⟨?_, ?_⟩))
    · exact Nat.pos_of_ne_zero hvalid.expansionsPerRound
    · exact Nat.sub_pos_of_lt hroom
  obtain ⟨entry, hentry, hplace⟩ := List.mem_map.mp hfirst
  obtain ⟨hentryRound, hentryExpansion⟩ := Prod.mk.inj hplace
  have hlater := hstates.reaches_later hfamilies (Nat.one_le_iff_ne_zero.mpr hdone.ne') le_rfl
  have hprefix := hlater.prefix_traces
  rw [hstates.last, htraces] at hprefix
  exact ⟨entry, hprefix.subset (List.mem_append_right _ hentry), hentryRound, hentryExpansion⟩

end First

/-- The rounds of a run. At the start of each a node with room is selected, the foremost one if all
bounds are numbers, and gets as many children as the budget of the round and its room allow, at
least one, with as many entries in turn. No node ever has more children than the settings allow, and
a run that exhausts its budget has completed all its rounds. -/
theorem run_rounds [OrderedScalar α] (hvalid : problem.config.validate = .ok ())
    (hfamilies : problem.families ≠ []) {root : Blueprint} {source : σ} {history : History}
    {outcome : SearchOutcome α σ} (h : problem.run root source history = .ok outcome) :
    let config := problem.config
    let start := problem.seeded root source history
    (∃ states, problem.Passes start outcome.roundsCompleted outcome.final states ∧
      ∀ done ≤ outcome.roundsCompleted,
        let tree := (states done).tree
        ∃ node ∈ tree.expandable config, tree.select? config = some node.id ∧
          ((∀ other ∈ tree.expandable config,
              confidenceBound tree other config ≤ confidenceBound tree other config) →
            tree.Foremost config node) ∧
          (done < outcome.roundsCompleted →
            let count := min config.expansionsPerRound (config.maxChildren - node.children.length)
            1 ≤ count ∧ ∃ children entries, children.length = count ∧
              Extended node.id (states done) (states (done + 1)) children entries ∧
              entries.map (fun entry ↦ (entry.round, entry.expansion)) =
                (List.range count).map (done + 1, ·))) ∧
      problem.Reaches start outcome.final ∧
      (∀ state, problem.Reaches start state →
        ∀ node ∈ state.tree.nodes, node.children.length ≤ config.maxChildren) ∧
      (outcome.stopReason = .budgetExhausted → outcome.roundsCompleted = config.rounds) := by
  intro config start
  have hvalid := (SearchConfig.validate_eq_ok_iff _).mp hvalid
  obtain ⟨states, hstates⟩ := (ends_of_run hfamilies h).exists_passes
  refine ⟨⟨states, hstates, fun done hdone ↦ ?_⟩, (reaches_of_run h).2,
    fun state hstate node hnode ↦ hstate.length_children_le hnode,
    roundsCompleted_of_exhausted hvalid hfamilies h⟩
  have hstate := hstates.reaches hfamilies hdone
  obtain ⟨node, hnode, hselected, hforemost⟩ := hstate.exists_foremost hvalid
  refine ⟨node, hnode, hselected, hforemost, fun hlt ↦ ?_⟩
  obtain ⟨hmem, hroom⟩ := Tree.mem_expandable.mp hnode
  obtain ⟨parent, hround⟩ := hstates.round done hlt
  obtain rfl : node.id = parent := Option.some.inj (hselected.symm.trans hround.selected)
  have hin := hround.inRound hfamilies hstate.grown (hstate.grown.wellFormed.get?_of_mem hmem)
  obtain ⟨children, entries, hlength, hextended⟩ := hin.exists_extended hstate.grown
  obtain ⟨entries', htraces, hplaces⟩ := hin.exists_entries
  obtain rfl : entries' = entries := List.append_cancel_left (htraces.symm.trans hextended.traces)
  have hcount : 1 ≤ min config.expansionsPerRound (config.maxChildren - node.children.length) :=
    Nat.le_min.mpr ⟨Nat.pos_of_ne_zero hvalid.expansionsPerRound, Nat.sub_pos_of_lt hroom⟩
  exact ⟨hcount, children, entries', hlength, hextended, hplaces⟩

theorem simulatedProblem_rounds :
    simulatedProblem.config.validate = .ok () ∧ simulatedProblem.families ≠ [] ∧
      ∃ outcome, simulatedProblem.run simulatedRoot (ChaCha.ofSeed 0) [] = .ok outcome ∧
        (∀ node ∈ outcome.final.tree.nodes,
          node.children.length ≤ simulatedProblem.config.maxChildren) ∧
        (outcome.stopReason = .budgetExhausted →
          outcome.roundsCompleted = simulatedProblem.config.rounds) := by
  obtain ⟨outcome, houtcome, -⟩ :=
    run_reaches simulatedProblem_train_ne_nil simulatedRoot (ChaCha.ofSeed 0) []
  obtain ⟨-, hreaches, hchildren, hexhausted⟩ :=
    run_rounds simulatedProblem_valid simulatedProblem_families_ne_nil houtcome
  exact ⟨simulatedProblem_valid, simulatedProblem_families_ne_nil, outcome, houtcome,
    hchildren _ hreaches, hexhausted⟩

end SearchProblem

end WorkflowSearch
