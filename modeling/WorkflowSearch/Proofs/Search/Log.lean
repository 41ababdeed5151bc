import WorkflowSearch.Proofs.Scalar.Order
import WorkflowSearch.Proofs.Search.Best
import WorkflowSearch.Proofs.Search.Growth
import WorkflowSearch.Proofs.Text.Numbered

namespace WorkflowSearch

variable {α σ : Type} [Scalar α]

namespace TraceEntry

/-- An entry of an earlier round, or of an earlier expansion of the same round. -/
def Precedes (a b : TraceEntry α) : Prop :=
  a.round < b.round ∨ a.round = b.round ∧ a.expansion < b.expansion

theorem describes_asCreated_left {entry : TraceEntry α} {parent child : Node α} :
    entry.Describes parent.asCreated child ↔ entry.Describes parent child := by
  constructor <;> rintro ⟨⟩ <;> constructor <;> assumption

theorem describes_asCreated_right {entry : TraceEntry α} {parent child : Node α} :
    entry.Describes parent child.asCreated ↔ entry.Describes parent child := by
  constructor <;> rintro ⟨⟩ <;> constructor <;> assumption

end TraceEntry

def bestTrainAfter (rootTrain : α) (entries : List (TraceEntry α)) : α :=
  (entries.map (·.trainObjective)).foldl Scalar.max rootTrain

theorem bestTrainAfter_concat (rootTrain : α) (entries : List (TraceEntry α))
    (entry : TraceEntry α) :
    bestTrainAfter rootTrain (entries ++ [entry]) =
      Scalar.max (bestTrainAfter rootTrain entries) entry.trainObjective := by
  simp [bestTrainAfter]

theorem bestTrainAfter_mem (rootTrain : α) (entries : List (TraceEntry α)) :
    bestTrainAfter rootTrain entries ∈ rootTrain :: entries.map (·.trainObjective) :=
  foldl_mem_cons Scalar.max_eq_or_eq _ _

theorem le_bestTrainAfter [OrderedScalar α] {rootTrain a : α} {entries : List (TraceEntry α)}
    (hmem : a ∈ rootTrain :: entries.map (·.trainObjective)) (ha : a ≤ a) :
    a ≤ bestTrainAfter rootTrain entries :=
  Scalar.le_foldl_max hmem ha

namespace SearchProblem

section Order

variable {problem : SearchProblem α} [RandomSource σ]

theorem InRound.exists_entries {round parent expansions : ℕ} {start state : SearchState α σ}
    (h : problem.InRound round parent start expansions state) :
    ∃ entries, state.traces = start.traces ++ entries ∧
      entries.map (fun entry ↦ (entry.round, entry.expansion)) =
        (List.range expansions).map (round, ·) := by
  induction h with
  | start => exact ⟨[], (List.append_nil _).symm, rfl⟩
  | next _ hlast ih =>
    obtain ⟨entries, htraces, hplaces⟩ := ih
    obtain ⟨_, _, entry, -, -, hexpanded⟩ := hlast.exists_expanded
    refine ⟨entries ++ [entry], ?_, ?_⟩
    · rw [hexpanded.traces, htraces, List.append_assoc]
    · rw [List.map_append, hplaces, List.range_succ, List.map_append, List.map_singleton,
        List.map_singleton, hexpanded.round, hexpanded.expansion]

omit [Scalar α] in
theorem round_eq_of_places {entries : List (TraceEntry α)} {round expansions : ℕ}
    (h : entries.map (fun entry ↦ (entry.round, entry.expansion)) =
      (List.range expansions).map (round, ·)) {entry : TraceEntry α} (hentry : entry ∈ entries) :
    entry.round = round := by
  have hplace := List.mem_map_of_mem (f := fun e ↦ (e.round, e.expansion)) hentry
  rw [h] at hplace
  obtain ⟨_, -, hplace⟩ := List.mem_map.mp hplace
  exact (congrArg Prod.fst hplace).symm

theorem AfterRounds.ordered {done : ℕ} {start state : SearchState α σ}
    (h : problem.AfterRounds start done state) (hstart : start.traces = []) :
    state.traces.Pairwise TraceEntry.Precedes ∧ ∀ entry ∈ state.traces, entry.round ≤ done := by
  induction h with
  | start =>
    rw [hstart]
    exact ⟨.nil, by simp⟩
  | @next done parent expansions before after _ _ hlast ih =>
    obtain ⟨hpairwise, hrounds⟩ := ih
    obtain ⟨entries, htraces, hplaces⟩ := hlast.exists_entries
    have hround : ∀ entry ∈ entries, entry.round = done + 1 :=
      fun entry hentry ↦ round_eq_of_places hplaces hentry
    have hentries : entries.Pairwise TraceEntry.Precedes := by
      have hplaced : (entries.map fun e ↦ (e.round, e.expansion)).Pairwise
          fun a b ↦ a.1 = b.1 ∧ a.2 < b.2 := by
        rw [hplaces, List.pairwise_map]
        exact List.pairwise_lt_range.imp fun hlt ↦ ⟨rfl, hlt⟩
      exact (List.pairwise_map.mp hplaced).imp fun hplace ↦ .inr hplace
    rw [htraces, List.pairwise_append, List.forall_mem_append]
    refine ⟨⟨hpairwise, hentries, ?_⟩, ?_, ?_⟩
    · intro a ha b hb
      left
      rw [hround b hb]
      exact Nat.lt_succ_of_le (hrounds a ha)
    · exact fun entry hentry ↦ (hrounds entry hentry).trans (Nat.le_succ done)
    · exact fun entry hentry ↦ (hround entry hentry).le

end Order

section Entries

variable (problem : SearchProblem α)

structure DescribesNode (nodes : List (Node α)) (number : ℕ) (entry : TraceEntry α) : Prop where
  childNode : entry.childNode = number
  facts : ∃ parent child, nodes[entry.selectedNode]? = some parent ∧ nodes[number]? = some child ∧
    entry.Describes parent child ∧ entry.selectionScore = problem.config.nodeScore child

/-- Every entry describes its node, and has the best train objective by then. -/
structure LogFaithful (rootNode : Node α) (state : SearchState α σ) : Prop where
  rooted : state.tree.created[0]? = some rootNode
  size : state.tree.size = state.traces.length + 1
  describes : ∀ {i entry}, state.traces[i]? = some entry →
    problem.DescribesNode state.tree.created (i + 1) entry
  bestTrainObjective : ∀ {i entry}, state.traces[i]? = some entry →
    entry.bestTrainObjective = bestTrainAfter rootNode.train.objective (state.traces.take (i + 1))
  bestTrain : state.bestTrain = bestTrainAfter rootNode.train.objective state.traces

variable {problem}

theorem DescribesNode.mono {nodes : List (Node α)} {number : ℕ} {entry : TraceEntry α}
    (h : problem.DescribesNode nodes number entry) (more : List (Node α)) :
    problem.DescribesNode (nodes ++ more) number entry := by
  obtain ⟨parent, child, hparent, hchild, hfacts⟩ := h.facts
  have hparentlt := (List.getElem?_eq_some_iff.mp hparent).1
  have hchildlt := (List.getElem?_eq_some_iff.mp hchild).1
  exact ⟨h.childNode, parent, child, by rwa [List.getElem?_append_left hparentlt],
    by rwa [List.getElem?_append_left hchildlt], hfacts⟩

theorem Seeded.logFaithful {root : Blueprint} {history : History} {state : SearchState α σ}
    {node : Node α} (h : problem.Seeded root history state node) :
    problem.LogFaithful node state := by
  refine ⟨?_, ?_, ?_, ?_, ?_⟩
  · rw [h.created]
    rfl
  · rw [← Tree.length_created, h.created, h.traces]
    rfl
  · intro i entry hentry
    rw [h.traces] at hentry
    cases hentry
  · intro i entry hentry
    rw [h.traces] at hentry
    cases hentry
  · rw [h.bestTrain, h.traces]
    rfl

theorem Expanded.created_parent {round expansion : ℕ} {before after : SearchState α σ}
    {parent child : Node α} {entry : TraceEntry α}
    (h : problem.Expanded round expansion before after parent child entry)
    (hparent : before.tree.get? parent.id = some parent) :
    after.tree.created[entry.selectedNode]? = some parent.asCreated := by
  have hcreated : before.tree.created[parent.id]? = some parent.asCreated := by
    rw [Tree.get?_created, hparent, Option.map_some]
  have hlt := (List.getElem?_eq_some_iff.mp hcreated).1
  rw [h.describes.selectedNode, h.created, List.getElem?_append_left hlt, hcreated]

theorem Expanded.describesNode {round expansion : ℕ} {before after : SearchState α σ}
    {parent child : Node α} {entry : TraceEntry α}
    (h : problem.Expanded round expansion before after parent child entry)
    (hparent : before.tree.get? parent.id = some parent) :
    problem.DescribesNode after.tree.created before.tree.size entry := by
  refine ⟨h.childNode.trans h.id_eq, parent.asCreated, child, h.created_parent hparent, ?_, ?_,
    h.score⟩
  · rw [h.created, ← Tree.length_created]
    exact List.getElem?_concat_length
  · exact TraceEntry.describes_asCreated_left.mpr h.describes

theorem LogFaithful.expanded {rootNode parent child : Node α} {round expansion : ℕ}
    {before after : SearchState α σ} {entry : TraceEntry α} (h : problem.LogFaithful rootNode before)
    (hexpanded : problem.Expanded round expansion before after parent child entry)
    (hparent : before.tree.get? parent.id = some parent) :
    problem.LogFaithful rootNode after := by
  have hbest : after.bestTrain = bestTrainAfter rootNode.train.objective after.traces := by
    rw [hexpanded.traces, bestTrainAfter_concat, ← h.bestTrain, hexpanded.describes.trainObjective,
      hexpanded.bestTrain, hexpanded.bestTrainObjective]
  refine ⟨?_, ?_, ?_, ?_, hbest⟩
  · have hlt := (List.getElem?_eq_some_iff.mp h.rooted).1
    rw [hexpanded.created, List.getElem?_append_left hlt, h.rooted]
  · rw [hexpanded.size_eq, hexpanded.traces, List.length_append, h.size, List.length_singleton]
  · intro i last hlast
    rw [hexpanded.traces] at hlast
    obtain ⟨-, hold⟩ | ⟨rfl, rfl⟩ := getElem?_concat_cases hlast
    · rw [hexpanded.created]
      exact (h.describes hold).mono [child]
    · rw [← h.size]
      exact hexpanded.describesNode hparent
  · intro i last hlast
    rw [hexpanded.traces] at hlast
    obtain ⟨hlt, hold⟩ | ⟨rfl, rfl⟩ := getElem?_concat_cases hlast
    · rw [h.bestTrainObjective hold, hexpanded.traces, List.take_append_of_le_length hlt]
    · rw [List.take_of_length_le (by simp [hexpanded.traces]), ← hbest, hexpanded.bestTrain]

theorem LogFaithful.exists_nodes {rootNode : Node α} {state : SearchState α σ}
    (h : problem.LogFaithful rootNode state) {i : ℕ} {entry : TraceEntry α}
    (hentry : state.traces[i]? = some entry) :
    ∃ parent child, state.tree.get? entry.selectedNode = some parent ∧
      state.tree.get? (i + 1) = some child ∧ entry.Describes parent child ∧
      entry.selectionScore = problem.config.nodeScore child := by
  obtain ⟨parent', child', hparent, hchild, hfacts, hscore⟩ := (h.describes hentry).facts
  rw [Tree.get?_created, Option.map_eq_some_iff] at hparent hchild
  obtain ⟨parent, hparent, rfl⟩ := hparent
  obtain ⟨child, hchild, rfl⟩ := hchild
  rw [TraceEntry.describes_asCreated_left, TraceEntry.describes_asCreated_right] at hfacts
  exact ⟨parent, child, hparent, hchild, hfacts, hscore⟩

end Entries

/-- The log of a run is faithful to its tree. There is one entry for each node but the root; rounds
and expansions increase; each entry describes the next node, and its best train objective is the
greatest number among those of the root and of the entries so far. The
counter of blueprints ends at the size of the tree; from a root with the first number on, blueprints
are numbered like their nodes, so no two have the same id. -/
theorem run_log_faithful [OrderedScalar α] [RandomSource σ] {problem : SearchProblem α}
    {root : Blueprint} {source : σ} {history : History} {outcome : SearchOutcome α σ}
    (h : problem.run root source history = .ok outcome) :
    let tree := outcome.final.tree
    let traces := outcome.final.traces
    tree.size = traces.length + 1 ∧ outcome.final.context.nextBlueprint = tree.size ∧
      traces.Pairwise TraceEntry.Precedes ∧
      (∃ rootNode, tree.root? = some rootNode ∧ rootNode.blueprint = root ∧
        ∀ i entry, traces[i]? = some entry →
          let objectives := rootNode.train.objective :: (traces.take (i + 1)).map (·.trainObjective)
          entry.childNode = i + 1 ∧
          (∃ parent child, tree.get? entry.selectedNode = some parent ∧
            tree.get? (i + 1) = some child ∧ entry.Describes parent child ∧
            entry.selectionScore = problem.config.nodeScore child) ∧
          entry.bestTrainObjective ∈ objectives ∧
          ∀ a ∈ objectives, a ≤ a → a ≤ entry.bestTrainObjective) ∧
      (root.parts.id = "bp-0000" →
        (∀ k node, tree.get? k = some node →
          node.blueprint.parts.id = "bp-" ++ Text.padded 4 k) ∧
        (tree.nodes.map (·.blueprint.parts.id)).Nodup) := by
  intro tree traces
  obtain ⟨-, hrounds⟩ := afterRounds_of_run h
  obtain ⟨node, hseeded⟩ := problem.exists_seeded root source history
  have hgrown : problem.Grown root tree := hrounds.reaches.grown
  have hlog : problem.LogFaithful node outcome.final :=
    hrounds.reaches.grown_induction (P := problem.LogFaithful node) hseeded.logFaithful
      fun _ hparent hexpanded hlog ↦ hlog.expanded hexpanded hparent
  have hnumbered := hrounds.reaches.numbered
  refine ⟨hlog.size, hnumbered.nextBlueprint, (hrounds.ordered hseeded.traces).1, ?_, ?_⟩
  · obtain ⟨rootNode, hroot, hblueprint, -⟩ := hgrown.exists_root
    obtain rfl : rootNode.asCreated = node := by
      have hrooted := hlog.rooted
      rw [Tree.get?_created, hroot] at hrooted
      exact Option.some.inj hrooted
    refine ⟨rootNode, by rwa [Tree.root?, List.head?_eq_getElem?], hblueprint, ?_⟩
    intro i entry hentry objectives
    have hbest : entry.bestTrainObjective =
        bestTrainAfter rootNode.train.objective (traces.take (i + 1)) :=
      hlog.bestTrainObjective hentry
    refine ⟨(hlog.describes hentry).childNode, hlog.exists_nodes hentry, ?_, ?_⟩
    · rw [hbest]
      exact bestTrainAfter_mem _ _
    · intro a hmem ha
      rw [hbest]
      exact le_bestTrainAfter hmem ha
  · intro hid
    have hids {k : ℕ} {node : Node α} (hnode : tree.get? k = some node) :
        node.blueprint.parts.id = blueprintId k := hnumbered.blueprint_id hgrown hid hnode
    refine ⟨fun k node hnode ↦ hids hnode, ?_⟩
    refine hgrown.wellFormed.nodes_nodup.map_on fun a ha b hb heq ↦ ?_
    rw [hids (hgrown.wellFormed.get?_of_mem ha), hids (hgrown.wellFormed.get?_of_mem hb)] at heq
    exact hgrown.wellFormed.eq_of_id_eq ha hb (Text.numbered_injective "bp-" heq)

theorem simulatedProblem_log_faithful :
    ∃ outcome, simulatedProblem.run simulatedRoot (ChaCha.ofSeed 0) [] = .ok outcome ∧
      outcome.final.tree.size = outcome.final.traces.length + 1 ∧
      outcome.final.traces.Pairwise TraceEntry.Precedes ∧
      (outcome.final.tree.nodes.map (·.blueprint.parts.id)).Nodup := by
  obtain ⟨outcome, houtcome, -⟩ :=
    run_reaches simulatedProblem_train_ne_nil simulatedRoot (ChaCha.ofSeed 0) []
  obtain ⟨hsize, -, hordered, -, hids⟩ := run_log_faithful houtcome
  exact ⟨outcome, houtcome, hsize, hordered, (hids (by decide)).2⟩

end SearchProblem

end WorkflowSearch
