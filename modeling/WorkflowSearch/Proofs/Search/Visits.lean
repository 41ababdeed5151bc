import WorkflowSearch.Proofs.Search.Best
import WorkflowSearch.Proofs.Search.Growth

namespace WorkflowSearch

variable {α σ : Type} [Scalar α]

namespace Tree

def rewards (tree : Tree α) (top : ℕ) : List α :=
  (tree.subtree top).map (·.train.objective)

def counters (tree : Tree α) (id : ℕ) : ℕ × α :=
  ((tree.get? id).map fun node ↦ (node.visits, node.valueSum)).getD (0, 0)

/-- The counters are the number and the sum of the rewards. -/
def Counted (tree : Tree α) : Prop :=
  ∀ id, tree.counters id = ((tree.rewards id).length, Scalar.sum (tree.rewards id))

theorem counters_addChild? {tree tree' : Tree α} {parent child : ℕ} {blueprint : Blueprint}
    {mutation : Mutation} {train validation : Summary α}
    (h : tree.addChild? parent blueprint mutation train validation = some (tree', child)) (id : ℕ) :
    tree'.counters id = tree.counters id := by
  rw [counters, get?_addChild? h, counters]
  split
  · next hid =>
    have hnone : tree.get? id = none := List.getElem?_eq_none hid.ge
    rw [hnone]
    rfl
  · rw [Option.map_map]
    congr 2
    funext node
    dsimp only [Function.comp_apply]
    split <;> rfl

theorem counters_ofRoot (blueprint : Blueprint) (train validation : Summary α) (id : ℕ) :
    (ofRoot blueprint train validation).counters id = (0, 0) := by
  cases id with
  | zero => rfl
  | succ id => rfl

theorem counters_backpropagate (tree : Tree α) (node : ℕ) (reward : α) (id : ℕ) :
    (tree.backpropagate node reward).counters id =
      if id ∈ tree.pathToRoot node then
        ((tree.counters id).1 + 1, (tree.counters id).2 + reward)
      else tree.counters id := by
  rw [counters, get?_backpropagate, counters]
  by_cases hid : id ∈ tree.pathToRoot node
  · obtain ⟨on, hon⟩ := exists_of_mem_pathToRoot hid
    rw [if_pos hid, hon]
    simp only [if_pos hid]
    rfl
  · rw [if_neg hid]
    simp only [if_neg hid, Option.map_id']

theorem rewards_eq_created (tree : Tree α) (top : ℕ) :
    tree.rewards top =
      (tree.created.filter fun node ↦ top ∈ tree.pathToRoot node.id).map (·.train.objective) := by
  rw [rewards, subtree, created, List.filter_map, List.map_map]
  rfl

theorem rewards_concat {tree tree' : Tree α} {node : Node α} (h : tree.WellFormed)
    (hcreated : tree'.created = tree.created ++ [node]) (top : ℕ) :
    tree'.rewards top = tree.rewards top ++
      if top ∈ tree'.pathToRoot node.id then [node.train.objective] else [] := by
  rw [rewards_eq_created, rewards_eq_created, hcreated, List.filter_append, List.map_append]
  congr 1
  · congr 1
    refine List.filter_congr fun old hold ↦ ?_
    obtain ⟨old, hnode, rfl⟩ := List.mem_map.mp hold
    have hid : old.id < tree.size := h.id_lt_of_mem hnode
    have hpath : tree'.pathToRoot old.asCreated.id = tree.pathToRoot old.asCreated.id :=
      pathToRoot_eq_of_created hcreated hid
    rw [hpath]
  · by_cases hmem : top ∈ tree'.pathToRoot node.id
    · simp [hmem]
    · simp [hmem]

theorem Counted.backpropagate {tree tree' : Tree α} {node : Node α} (h : tree.Counted)
    (hformed : tree.WellFormed) (hcreated : tree'.created = tree.created ++ [node])
    (hcounters : ∀ id, tree'.counters id = tree.counters id) :
    (tree'.backpropagate node.id node.train.objective).Counted := by
  intro id
  rw [← created_backpropagate tree' node.id node.train.objective] at hcreated
  rw [rewards_concat hformed hcreated, counters_backpropagate, pathToRoot_backpropagate, hcounters,
    h id]
  by_cases hid : id ∈ tree'.pathToRoot node.id
  · simp [hid, Scalar.sum]
  · simp [hid]

namespace Counted

variable {tree : Tree α} (h : tree.Counted) (hformed : tree.WellFormed) {node : Node α}
  (hnode : node ∈ tree.nodes)
include h hformed hnode

theorem visits_eq : node.visits = (tree.subtree node.id).length := by
  have hcounters := congrArg Prod.fst (h node.id)
  rw [counters, hformed.get?_of_mem hnode] at hcounters
  simpa [rewards] using hcounters

theorem visits_le : node.visits ≤ tree.size := by
  rw [h.visits_eq hformed hnode]
  exact List.length_filter_le ..

theorem valueSum_eq :
    node.valueSum = Scalar.sum ((tree.subtree node.id).map (·.train.objective)) := by
  have hcounters := congrArg Prod.snd (h node.id)
  rwa [counters, hformed.get?_of_mem hnode] at hcounters

theorem visits_eq_children :
    ∃ children : List (Node α), node.children.map tree.get? = children.map some ∧
      node.visits = 1 + (children.map (·.visits)).sum := by
  have hnodes {child : Node α} (hchild : child ∈ tree.childNodes node.id) : child ∈ tree.nodes :=
    (mem_childNodes.mp hchild).1
  refine ⟨tree.childNodes node.id, ?_, ?_⟩
  · rw [hformed.children_eq (hformed.get?_of_mem hnode), childIds, List.map_map]
    exact List.map_congr_left fun child hchild ↦ hformed.get?_of_mem (hnodes hchild)
  · have hvisits : (tree.childNodes node.id).map (·.visits) =
        (tree.childNodes node.id).map fun child ↦ (tree.subtree child.id).length :=
      List.map_congr_left fun child hchild ↦ h.visits_eq hformed (hnodes hchild)
    calc node.visits
        = (tree.subtree node.id).length := h.visits_eq hformed hnode
      _ = ((tree.childNodes node.id).flatMap (tree.subtree ·.id)).length + 1 :=
          (hformed.subtree_perm hnode).length_eq
      _ = 1 + ((tree.childNodes node.id).map (·.visits)).sum := by
          rw [List.length_flatMap, hvisits, Nat.add_comm]

end Counted

end Tree

namespace SearchProblem

variable {problem : SearchProblem α}

theorem Seeded.counted {root : Blueprint} {history : History} {state : SearchState α σ}
    {node : Node α} (h : problem.Seeded root history state node) : state.tree.Counted := by
  have hempty : (Tree.empty : Tree α).Counted := fun _ ↦ rfl
  have hcreated := h.created
  rw [h.tree, Tree.created_backpropagate] at hcreated
  rw [h.tree, ← h.id_eq]
  exact hempty.backpropagate Tree.wellFormed_empty hcreated fun id ↦ Tree.counters_ofRoot _ _ _ id

theorem Expanded.counted {round expansion : ℕ} {before after : SearchState α σ}
    {parent child : Node α} {entry : TraceEntry α}
    (h : problem.Expanded round expansion before after parent child entry)
    (hformed : before.tree.WellFormed) (hcounted : before.tree.Counted) : after.tree.Counted := by
  obtain ⟨tree, hadd, htree⟩ := h.tree
  have hcreated := h.created
  rw [htree, Tree.created_backpropagate] at hcreated
  rw [htree]
  exact hcounted.backpropagate hformed hcreated (Tree.counters_addChild? hadd)

variable [RandomSource σ]

theorem Reaches.counted {root : Blueprint} {source : σ} {history : History}
    {state : SearchState α σ} (h : problem.Reaches (problem.seeded root source history) state) :
    state.tree.Counted := by
  obtain ⟨node, hseeded⟩ := problem.exists_seeded root source history
  exact h.grown_induction (P := fun state ↦ state.tree.Counted) hseeded.counted
    fun hgrown _ hexpanded hcounted ↦ hexpanded.counted hgrown.wellFormed hcounted

/-- From the evaluation of the root on, after every expansion, a node has as many visits as there
are nodes in its subtree: one and those of its children; the root has as many as there are nodes.
The value of a node is the sum, from left to right, of the train objectives of its subtree in the
order of creation. A counter of 32 bits holds the visits of a tree of fewer than `2 ^ 32` nodes. -/
theorem run_counts {root : Blueprint} {source : σ} {history : History}
    {outcome : SearchOutcome α σ} (h : problem.run root source history = .ok outcome) :
    let start := problem.seeded root source history
    problem.Reaches start outcome.final ∧
    ∀ state, problem.Reaches start state →
      let tree := state.tree
      (∀ node ∈ tree.nodes,
        node.visits = (tree.subtree node.id).length ∧
        node.valueSum = Scalar.sum ((tree.subtree node.id).map (·.train.objective)) ∧
        (∀ below, below ∈ tree.subtree node.id ↔ ∃ path, tree.Descent node path below) ∧
        ∃ children : List (Node α), node.children.map tree.get? = children.map some ∧
          node.visits = 1 + (children.map (·.visits)).sum) ∧
      (∃ rootNode, tree.root? = some rootNode ∧ rootNode.visits = tree.size) ∧
      (tree.size < UInt32.size → ∀ node ∈ tree.nodes, node.visits < UInt32.size) := by
  intro start
  refine ⟨(reaches_of_run h).2, ?_⟩
  intro state hstate tree
  have hgrown : problem.Grown root tree := hstate.grown
  have hformed := hgrown.wellFormed
  have hcounted : tree.Counted := hstate.counted
  refine ⟨fun node hnode ↦ ⟨hcounted.visits_eq hformed hnode, hcounted.valueSum_eq hformed hnode,
    fun _ ↦ hformed.mem_subtree_iff hnode, hcounted.visits_eq_children hformed hnode⟩, ?_,
    fun hsize node hnode ↦ (hcounted.visits_le hformed hnode).trans_lt hsize⟩
  obtain ⟨rootNode, hroot, -⟩ := hgrown.exists_root
  refine ⟨rootNode, ?_, ?_⟩
  · rw [Tree.root?, List.head?_eq_getElem?]
    exact hroot
  · have hvisits := hcounted.visits_eq hformed (List.mem_of_getElem? hroot)
    rwa [hformed.id_eq hroot, hformed.subtree_root] at hvisits

theorem simulatedProblem_counts :
    ∃ outcome, simulatedProblem.run simulatedRoot (ChaCha.ofSeed 0) [] = .ok outcome ∧
      (∀ node ∈ outcome.final.tree.nodes, node.valueSum =
        Scalar.sum ((outcome.final.tree.subtree node.id).map (·.train.objective))) ∧
      ∃ rootNode, outcome.final.tree.root? = some rootNode ∧
        rootNode.visits = outcome.final.tree.size := by
  obtain ⟨outcome, houtcome, -⟩ :=
    run_reaches simulatedProblem_train_ne_nil simulatedRoot (ChaCha.ofSeed 0) []
  obtain ⟨hreaches, hcounts⟩ := run_counts houtcome
  obtain ⟨hnodes, hroot, -⟩ := hcounts outcome.final hreaches
  exact ⟨outcome, houtcome, fun node hnode ↦ (hnodes node hnode).2.1, hroot⟩

end SearchProblem

end WorkflowSearch
