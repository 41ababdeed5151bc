import WorkflowSearch.Proofs.Search.Steps
import WorkflowSearch.Proofs.Search.Subtree

namespace WorkflowSearch

variable {α σ : Type} [Scalar α]

namespace SearchProblem

variable (problem : SearchProblem α)

structure ChildOf (parent child : Node α) (mutation : Mutation) : Prop where
  parent_eq : child.parent = some parent.id
  mutation_eq : child.mutation = some mutation
  derives : ∃ childId, problem.mutator.Derives parent.blueprint childId child.blueprint mutation

/-- The first node has the root, and every later one is the child of a node. -/
structure Grown (root : Blueprint) (tree : Tree α) : Prop where
  wellFormed : tree.WellFormed
  root : ∃ node, tree.created[0]? = some node ∧ node.blueprint = root ∧ node.mutation = none
  child : ∀ {i node}, tree.created[i + 1]? = some node →
    ∃ parent mutation, tree.created[parent.id]? = some parent ∧ problem.ChildOf parent node mutation

variable {problem}

theorem Seeded.grown {root : Blueprint} {history : History} {state : SearchState α σ}
    {node : Node α} (h : problem.Seeded root history state node) :
    problem.Grown root state.tree := by
  refine ⟨?_, ⟨node, ?_, h.blueprint, h.mutation⟩, ?_⟩
  · rw [h.tree]
    exact (Tree.wellFormed_ofRoot ..).backpropagate ..
  · rw [h.created]
    rfl
  · intro i child hchild
    rw [h.created] at hchild
    simp at hchild

theorem Grown.expanded {root : Blueprint} {round expansion id : ℕ} {before after : SearchState α σ}
    {parent child : Node α} {entry : TraceEntry α} {childId : String}
    (h : problem.Grown root before.tree) (hselected : before.tree.get? id = some parent)
    (hderives : problem.mutator.Derives parent.blueprint childId child.blueprint entry.mutation)
    (hexpanded : problem.Expanded round expansion before after parent child entry) :
    problem.Grown root after.tree := by
  obtain ⟨tree, hadd, htree⟩ := hexpanded.tree
  obtain rfl : parent.id = id := h.wellFormed.id_eq hselected
  refine ⟨?_, ?_, ?_⟩
  · rw [htree]
    exact (h.wellFormed.addChild? hadd).backpropagate ..
  · obtain ⟨node, hnode, hblueprint, hmutation⟩ := h.root
    have hlt := (List.getElem?_eq_some_iff.mp hnode).1
    refine ⟨node, ?_, hblueprint, hmutation⟩
    rw [hexpanded.created, List.getElem?_append_left hlt, hnode]
  · intro i node hnode
    rw [hexpanded.created] at hnode ⊢
    obtain ⟨-, hnode⟩ | ⟨-, rfl⟩ := getElem?_concat_cases hnode
    · obtain ⟨old, mutation, hold, hchild⟩ := h.child hnode
      have hlt := (List.getElem?_eq_some_iff.mp hold).1
      exact ⟨old, mutation, by rwa [List.getElem?_append_left hlt], hchild⟩
    · have hparent : before.tree.created[parent.id]? = some parent.asCreated := by
        rw [Tree.get?_created, hselected, Option.map_some]
      have hlt := (List.getElem?_eq_some_iff.mp hparent).1
      refine ⟨parent.asCreated, entry.mutation, ?_, ?_⟩
      · exact (List.getElem?_append_left hlt).trans hparent
      · exact ⟨hexpanded.describes.parent, hexpanded.describes.mutation, childId, hderives⟩

section Induction

variable [RandomSource σ] {root : Blueprint} {source : σ} {history : History}
  {state : SearchState α σ}

theorem Grown.exists_expansion (h : problem.Grown root state.tree) (hfamilies : problem.families ≠ [])
    {parent : ℕ} {node : Node α} (hnode : state.tree.get? parent = some node)
    (hroom : node.children.length < problem.config.maxChildren) (round expansion : ℕ) :
    ∃ next, problem.Expansion round expansion parent state next := by
  obtain ⟨hsize, -⟩ | ⟨next, hlast, -⟩ := expand_succ hfamilies hnode hroom expansion
  · have hid := h.wellFormed.id_lt_of_mem (List.mem_of_getElem? hnode)
    exact absurd hsize (not_le.mpr hid)
  · exact ⟨next, hlast⟩

theorem Grown.reaches {before after : SearchState α σ} (h : problem.Grown root before.tree)
    (hreaches : problem.Reaches before after) : problem.Grown root after.tree :=
  hreaches.expansion_induction (P := fun state ↦ problem.Grown root state.tree)
    (fun hselected hderives hexpanded hgrown ↦ hgrown.expanded hselected hderives hexpanded) h

theorem Reaches.grown (h : problem.Reaches (problem.seeded root source history) state) :
    problem.Grown root state.tree := by
  obtain ⟨node, hseeded⟩ := problem.exists_seeded root source history
  exact hseeded.grown.reaches h

theorem Reaches.grown_applied_induction {P : SearchState α σ → Prop}
    (h : problem.Reaches (problem.seeded root source history) state)
    (start : P (problem.seeded root source history))
    (step : ∀ {round expansion : ℕ} {before after : SearchState α σ} {parent child : Node α}
      {entry : TraceEntry α}, problem.Grown root before.tree →
      before.tree.get? parent.id = some parent →
      problem.Expanded round expansion before after parent child entry →
      problem.Applied before after parent child entry → P before → P after) :
    P state := by
  obtain ⟨node, hseeded⟩ := problem.exists_seeded root source history
  refine (h.applied_induction (P := fun state ↦ problem.Grown root state.tree ∧ P state) ?_
    ⟨hseeded.grown, start⟩).2
  rintro round expansion id before after parent child entry hselected hderives hexpanded happlied
    ⟨hgrown, hbefore⟩
  obtain rfl : parent.id = id := hgrown.wellFormed.id_eq hselected
  exact ⟨hgrown.expanded hselected hderives hexpanded,
    step hgrown hselected hexpanded happlied hbefore⟩

theorem Reaches.grown_induction {P : SearchState α σ → Prop}
    (h : problem.Reaches (problem.seeded root source history) state)
    (start : P (problem.seeded root source history))
    (step : ∀ {round expansion : ℕ} {before after : SearchState α σ} {parent child : Node α}
      {entry : TraceEntry α}, problem.Grown root before.tree →
      before.tree.get? parent.id = some parent →
      problem.Expanded round expansion before after parent child entry → P before → P after) :
    P state :=
  h.grown_applied_induction start fun hgrown hselected hexpanded _ ↦ step hgrown hselected hexpanded

/-- The counter of blueprints is in step with the tree, and every child has the number of its node. -/
structure Numbered (state : SearchState α σ) : Prop where
  nextBlueprint : state.context.nextBlueprint = state.tree.size
  child : ∀ {i node}, state.tree.created[i + 1]? = some node →
    node.blueprint.parts.id = blueprintId (i + 1)

omit [RandomSource σ] in
theorem Seeded.numbered {node : Node α}
    (h : problem.Seeded root history (problem.seeded root source history) node) :
    Numbered (problem.seeded root source history) := by
  refine ⟨?_, fun hchild ↦ ?_⟩
  · rw [← Tree.length_created, h.created]
    rfl
  · rw [h.created] at hchild
    simp at hchild

omit [RandomSource σ] in
theorem Numbered.expanded {round expansion : ℕ} {before after : SearchState α σ}
    {parent child : Node α} {entry : TraceEntry α} (h : Numbered before)
    (hexpanded : problem.Expanded round expansion before after parent child entry)
    (happlied : problem.Applied before after parent child entry) : Numbered after := by
  obtain @⟨family, source, context, hderived, hcontext⟩ := happlied
  refine ⟨?_, fun {i node} hnode ↦ ?_⟩
  · have hnext := problem.nextBlueprint_deriveChild family parent { before.context with source }
    rw [hderived] at hnext
    rw [hexpanded.size_eq, ← h.nextBlueprint, ← hnext, hcontext]
    rfl
  · rw [hexpanded.created] at hnode
    obtain ⟨-, hnode⟩ | ⟨hlast, rfl⟩ := getElem?_concat_cases hnode
    · exact h.child hnode
    · obtain ⟨changed, -, hparts⟩ := problem.derives_of_deriveChild (congrArg Prod.fst hderived)
      rw [hlast, Tree.length_created, ← h.nextBlueprint, hparts]
      rfl

theorem Reaches.numbered (h : problem.Reaches (problem.seeded root source history) state) :
    Numbered state := by
  obtain ⟨node, hseeded⟩ := problem.exists_seeded root source history
  exact h.applied_induction (fun _ _ hexpanded happlied hnumbered ↦
    hnumbered.expanded hexpanded happlied) hseeded.numbered

end Induction

namespace Grown

variable {root : Blueprint} {tree : Tree α} (h : problem.Grown root tree)
include h

theorem exists_root :
    ∃ node, tree.get? 0 = some node ∧ node.blueprint = root ∧ node.mutation = none ∧
      node.parent = none := by
  obtain ⟨node', hnode, hblueprint, hmutation⟩ := h.root
  rw [Tree.get?_created, Option.map_eq_some_iff] at hnode
  obtain ⟨node, hnode, rfl⟩ := hnode
  exact ⟨node, hnode, hblueprint, hmutation, (h.wellFormed.parent_eq_none_iff hnode).mpr rfl⟩

theorem nodes_ne_nil : tree.nodes ≠ [] := by
  obtain ⟨node, hnode, -⟩ := h.exists_root
  exact List.ne_nil_of_mem (List.mem_of_getElem? hnode)

theorem exists_parent {i : ℕ} {node : Node α} (hnode : tree.get? (i + 1) = some node) :
    ∃ parent mutation, tree.get? parent.id = some parent ∧ parent.id < i + 1 ∧
      problem.ChildOf parent node mutation := by
  have hcreated : tree.created[i + 1]? = some node.asCreated := by
    rw [Tree.get?_created, hnode, Option.map_some]
  obtain ⟨parent', mutation, hparent, hchild⟩ := h.child hcreated
  rw [Tree.get?_created, Option.map_eq_some_iff] at hparent
  obtain ⟨parent, hparent, rfl⟩ := hparent
  have hlink : node.parent = some parent.id := hchild.parent_eq
  exact ⟨parent, mutation, hparent, h.wellFormed.parent_lt hnode hlink,
    hlink, hchild.mutation_eq, hchild.derives⟩

/-- What holds of the node of the root, and of a node if it holds of the one that it is made from,
holds of all nodes. -/
theorem node_induction {motive : ∀ node ∈ tree.nodes, Prop}
    (first : ∀ node (hnode : node ∈ tree.nodes), tree.get? 0 = some node →
      node.blueprint = root → motive node hnode)
    (child : ∀ parent node mutation (hparent : parent ∈ tree.nodes) (hnode : node ∈ tree.nodes),
      problem.ChildOf parent node mutation → motive parent hparent → motive node hnode)
    (node : Node α) (hnode : node ∈ tree.nodes) : motive node hnode := by
  have hformed := h.wellFormed
  induction node, hnode using hformed.node_induction with
  | root node hnode hzero =>
    have hget := hformed.get?_of_mem hnode
    rw [hzero] at hget
    obtain ⟨node', hnode', hblueprint, -⟩ := h.exists_root
    obtain rfl := Option.some.inj (hnode'.symm.trans hget)
    exact first node' hnode hget hblueprint
  | child above node habove hnode hlink ih =>
    have hget := hformed.get?_of_mem hnode
    obtain ⟨i, hi⟩ : ∃ i, node.id = i + 1 :=
      Nat.exists_eq_add_one_of_ne_zero fun hzero ↦ by
        rw [(hformed.parent_eq_none_iff hget).mpr hzero] at hlink
        cases hlink
    rw [hi] at hget
    obtain ⟨parent, mutation, hparent, -, hchild⟩ := h.exists_parent hget
    obtain rfl : above = parent := hformed.eq_of_id_eq habove (List.mem_of_getElem? hparent)
      (Option.some.inj (hlink.symm.trans hchild.parent_eq))
    exact child above node mutation habove hnode hchild ih

/-- What the root has and every mutation preserves, every blueprint of the tree has. -/
theorem blueprint_induction {P : Blueprint → Prop} (hroot : P root)
    (hstep : ∀ {parent child childId mutation},
      problem.mutator.Derives parent childId child mutation → P parent → P child)
    {node : Node α} (hnode : node ∈ tree.nodes) : P node.blueprint := by
  induction node, hnode using h.node_induction with
  | first node _ _ hblueprint => exact hblueprint ▸ hroot
  | child parent node mutation _ _ hchild ih =>
    obtain ⟨childId, hderives⟩ := hchild.derives
    exact hstep hderives ih

end Grown

theorem Numbered.blueprint_id {root : Blueprint} {state : SearchState α σ} (h : Numbered state)
    (hgrown : problem.Grown root state.tree) (hroot : root.parts.id = blueprintId 0) {i : ℕ}
    {node : Node α} (hnode : state.tree.get? i = some node) : node.blueprint.parts.id = blueprintId i := by
  cases i with
  | zero =>
    obtain ⟨node', hnode', rfl, -⟩ := hgrown.exists_root
    obtain rfl := Option.some.inj (hnode'.symm.trans hnode)
    exact hroot
  | succ i =>
    have hcreated : state.tree.created[i + 1]? = some node.asCreated := by
      rw [Tree.get?_created, hnode, Option.map_some]
    have hnumber := h.child hcreated
    exact hnumber

end SearchProblem

end WorkflowSearch
