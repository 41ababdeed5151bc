import WorkflowSearch.Proofs.Search.Best
import WorkflowSearch.Proofs.Search.Growth

namespace WorkflowSearch

variable {α σ : Type}

namespace Mutation

def changeTools (tools : List String) : Mutation → List String
  | .toolAdd tool _ => tools ++ [tool]
  | .toolRemove tool => tools.filter (· ≠ tool)
  | .promptRevision .. | .toolNoop | .topologySwitch .. => tools

def switchedTo? : Mutation → Option Topology
  | .topologySwitch _ after => some after
  | _ => none

/-- Whether a mutation can be made where the tools and the mode are the given ones: an added tool is
new, and what it replaces or removes is there. -/
def Fits (catalog : List Tool) (tools : List String) (mode : Topology) : Mutation → Prop
  | .toolAdd tool _ => tool ∈ catalog.map (·.id) ∧ tool ∉ tools
  | .toolRemove tool => tool ∈ tools
  | .topologySwitch before _ => before = mode
  | .promptRevision .. | .toolNoop => True

end Mutation

def replayTools (tools : List String) (mutations : List Mutation) : List String :=
  mutations.foldl Mutation.changeTools tools

def lastTopology (start : Topology) (mutations : List Mutation) : Topology :=
  (mutations.filterMap Mutation.switchedTo?).getLast?.getD start

theorem replayTools_concat (tools : List String) (mutations : List Mutation) (last : Mutation) :
    replayTools tools (mutations ++ [last]) = last.changeTools (replayTools tools mutations) := by
  simp [replayTools]

theorem lastTopology_concat (start : Topology) (mutations : List Mutation) (last : Mutation) :
    lastTopology start (mutations ++ [last]) =
      last.switchedTo?.getD (lastTopology start mutations) := by
  cases hlast : last.switchedTo? with
  | none => simp [lastTopology, List.filterMap_append, hlast]
  | some mode => simp [lastTopology, List.filterMap_append, hlast]

namespace Parts

namespace Changed

variable {catalog : List Tool} {task : String} {mutation : Mutation} {parts changed : Parts}
  (h : parts.Changed catalog task mutation changed)
include h

theorem lineage_eq : changed.lineage = parts.lineage := by
  cases h <;> rfl

theorem tools_eq : changed.tools.map (·.id) = mutation.changeTools (parts.tools.map (·.id)) := by
  cases h with
  | promptRevision | toolNoop | topologySwitch => rfl
  | toolAdd => simp [withTool, Mutation.changeTools]
  | toolRemove => simp [withoutTool, Mutation.changeTools, List.filter_map, Function.comp_def]

theorem topology_eq : changed.topology = mutation.switchedTo?.getD parts.topology := by
  cases h <;> rfl

theorem fits : mutation.Fits catalog (parts.tools.map (·.id)) parts.topology := by
  cases h with
  | promptRevision | toolNoop => trivial
  | toolAdd known absent => exact ⟨List.mem_map_of_mem known, absent⟩
  | toolRemove present => exact present
  | topologySwitch => rfl

theorem tools_ne_nil (hsound : parts.Sound) (htools : parts.tools ≠ []) : changed.tools ≠ [] := by
  cases h with
  | promptRevision | toolNoop | topologySwitch => exact htools
  | toolAdd => simp [withTool]
  | @toolRemove id present others =>
    intro hnil
    have hsame : ∀ tool ∈ parts.tools.map (·.id), tool = id := by
      simpa [withoutTool] using hnil
    have hreplicate := List.eq_replicate_of_mem hsame
    have hnodup := hsound.tools_nodup
    rw [hreplicate, List.nodup_replicate, List.length_map] at hnodup
    omega

end Changed

/-- Contents and the mutations that lead to them from those of a root. -/
structure Replays (catalog : List Tool) (root parts : Parts) (mutations : List Mutation) :
    Prop where
  lineage : parts.lineage = root.lineage ++ mutations
  tools : parts.tools.map (·.id) = replayTools (root.tools.map (·.id)) mutations
  topology : parts.topology = lastTopology root.topology mutations
  fits : ∀ before mutation after, mutations = before ++ mutation :: after →
    mutation.Fits catalog (replayTools (root.tools.map (·.id)) before)
      (lastTopology root.topology before)
  tools_ne_nil : root.tools ≠ [] → parts.tools ≠ []

theorem replays_nil (catalog : List Tool) (root : Parts) : Replays catalog root root [] :=
  ⟨(List.append_nil _).symm, rfl, rfl, by simp, fun hroot ↦ hroot⟩

theorem Replays.concat {catalog : List Tool} {task : String} {root parts changed : Parts}
    {mutations : List Mutation} {mutation : Mutation} (h : Replays catalog root parts mutations)
    (hchanged : parts.Changed catalog task mutation changed) (hsound : parts.Sound)
    (parentId childId : String) :
    Replays catalog root (changed.derived parentId childId mutation) (mutations ++ [mutation]) := by
  refine ⟨?_, ?_, ?_, ?_, ?_⟩
  · rw [derived, hchanged.lineage_eq, h.lineage, List.append_assoc]
  · rw [replayTools_concat, ← h.tools]
    exact hchanged.tools_eq
  · rw [lastTopology_concat, ← h.topology]
    exact hchanged.topology_eq
  · intro before mutation' after hsplit
    obtain ⟨rfl, rfl⟩ | ⟨rest, hsplit⟩ := append_cons_eq_concat hsplit
    · rw [← h.tools, ← h.topology]
      exact hchanged.fits
    · exact h.fits before mutation' rest hsplit
  · intro hroot
    exact hchanged.tools_ne_nil hsound (h.tools_ne_nil hroot)

end Parts

namespace SearchProblem

variable [Scalar α] {problem : SearchProblem α}

theorem Grown.exists_descent {root : Blueprint} {tree : Tree α} (h : problem.Grown root tree)
    {rootNode : Node α} (hroot : tree.get? 0 = some rootNode) {node : Node α}
    (hnode : node ∈ tree.nodes) :
    ∃ path mutations, tree.Descent rootNode path node ∧
      path.map (·.mutation) = mutations.map some ∧
      root.parts.Replays problem.catalog node.blueprint.parts mutations := by
  induction node, hnode using h.node_induction with
  | first node _ hnode hblueprint =>
    obtain rfl := Option.some.inj (hroot.symm.trans hnode)
    rw [hblueprint]
    exact ⟨[], [], .refl, rfl, Parts.replays_nil _ _⟩
  | child parent node mutation _ hnode hchild ih =>
    obtain ⟨path, mutations, hdescent, hmutations, hreplays⟩ := ih
    obtain ⟨_, changed, hchanged, hparts⟩ := hchild.derives
    refine ⟨path ++ [node], mutations ++ [mutation], ?_, ?_, ?_⟩
    · exact hdescent.child hnode hchild.parent_eq
    · rw [List.map_append, List.map_append, hmutations, List.map_singleton, List.map_singleton,
        hchild.mutation_eq]
    · rw [hparts]
      exact hreplays.concat hchanged parent.blueprint.parts_sound _ _

variable [RandomSource σ]

/-- In every run, the lineage of a node is that of the root and then the mutations of the nodes on
the way down to it. Replayed on the root they give the tool ids and the topology mode of the node,
each of them fits where it is replayed, and a root with tools has no descendant without. -/
theorem run_replays {root : Blueprint} {source : σ} {history : History}
    {outcome : SearchOutcome α σ} (h : problem.run root source history = .ok outcome) :
    let tree := outcome.final.tree
    ∃ rootNode, tree.root? = some rootNode ∧ rootNode.blueprint = root ∧
      ∀ node ∈ tree.nodes, ∃ path mutations, tree.Descent rootNode path node ∧
        path.map (·.mutation) = mutations.map some ∧
        root.parts.Replays problem.catalog node.blueprint.parts mutations := by
  intro tree
  have hgrown : problem.Grown root tree := (reaches_of_run h).2.grown
  obtain ⟨rootNode, hroot, hblueprint, -⟩ := hgrown.exists_root
  refine ⟨rootNode, ?_, hblueprint, ?_⟩
  · rw [Tree.root?, List.head?_eq_getElem?]
    exact hroot
  · exact fun node hnode ↦ hgrown.exists_descent hroot hnode

theorem simulatedProblem_replays :
    ∃ outcome, simulatedProblem.run simulatedRoot (ChaCha.ofSeed 0) [] = .ok outcome ∧
      ∃ rootNode, outcome.final.tree.root? = some rootNode ∧
        ∀ node ∈ outcome.final.tree.nodes, ∃ path mutations,
          outcome.final.tree.Descent rootNode path node ∧
          path.map (·.mutation) = mutations.map some ∧
          node.blueprint.parts.lineage = mutations ∧ node.blueprint.parts.tools ≠ [] := by
  obtain ⟨outcome, houtcome, -⟩ :=
    run_reaches simulatedProblem_train_ne_nil simulatedRoot (ChaCha.ofSeed 0) []
  obtain ⟨rootNode, hroot, -, hnodes⟩ := run_replays houtcome
  refine ⟨outcome, houtcome, rootNode, hroot, fun node hnode ↦ ?_⟩
  obtain ⟨path, mutations, hdescent, hmutations, hreplays⟩ := hnodes node hnode
  exact ⟨path, mutations, hdescent, hmutations, hreplays.lineage,
    hreplays.tools_ne_nil (by decide)⟩

end SearchProblem

end WorkflowSearch
