import Mathlib.Order.Nat
import WorkflowSearch.Proofs.Lists
import WorkflowSearch.Search.Tree

namespace WorkflowSearch

variable {α : Type}

namespace Tree

section Paths

theorem pathToRoot_of_get? {tree : Tree α} {id : ℕ} {node : Node α}
    (h : tree.get? id = some node) :
    tree.pathToRoot id = id :: match node.parent with
      | none => []
      | some parent => if parent < id then tree.pathToRoot parent else [] := by
  rw [pathToRoot]
  simp only [h]
  cases node.parent with
  | none => rfl
  | some parent =>
    dsimp only
    split <;> rfl

theorem mem_pathToRoot_cases {tree : Tree α} {i id : ℕ} (h : i ∈ tree.pathToRoot id) :
    (i = id ∧ ∃ node, tree.get? id = some node) ∨ ∃ parent < id, i ∈ tree.pathToRoot parent := by
  cases hnode : tree.get? id with
  | none =>
    rw [pathToRoot, hnode] at h
    cases h
  | some node =>
    rw [pathToRoot_of_get? hnode, List.mem_cons] at h
    obtain rfl | h := h
    · exact .inl ⟨rfl, node, rfl⟩
    · split at h
      · cases h
      · next parent _ =>
        split at h
        · next hlt => exact .inr ⟨parent, hlt, h⟩
        · cases h

theorem le_of_mem_pathToRoot {tree : Tree α} {i id : ℕ} (h : i ∈ tree.pathToRoot id) : i ≤ id := by
  induction id using Nat.strongRecOn with
  | ind id ih =>
    obtain ⟨rfl, -⟩ | ⟨parent, hlt, h⟩ := mem_pathToRoot_cases h
    · exact le_rfl
    · exact (ih parent hlt h).trans hlt.le

theorem exists_of_mem_pathToRoot {tree : Tree α} {i id : ℕ} (h : i ∈ tree.pathToRoot id) :
    ∃ node, tree.get? i = some node := by
  induction id using Nat.strongRecOn with
  | ind id ih =>
    obtain ⟨rfl, hnode⟩ | ⟨parent, hlt, h⟩ := mem_pathToRoot_cases h
    · exact hnode
    · exact ih parent hlt h

theorem pathToRoot_pairwise (tree : Tree α) (id : ℕ) :
    (tree.pathToRoot id).Pairwise (· > ·) := by
  induction id using Nat.strongRecOn with
  | ind id ih =>
    cases hnode : tree.get? id with
    | none =>
      rw [pathToRoot, hnode]
      exact .nil
    | some node =>
      rw [pathToRoot_of_get? hnode]
      split
      · exact List.pairwise_singleton ..
      · next parent _ =>
        split
        · next hlt =>
          exact .cons (fun i hi ↦ (le_of_mem_pathToRoot hi).trans_lt hlt) (ih parent hlt)
        · exact List.pairwise_singleton ..

def childNodes (tree : Tree α) (id : ℕ) : List (Node α) :=
  tree.nodes.filter (·.parent = some id)

theorem mem_childNodes {tree : Tree α} {id : ℕ} {child : Node α} :
    child ∈ tree.childNodes id ↔ child ∈ tree.nodes ∧ child.parent = some id := by
  rw [childNodes, List.mem_filter, decide_eq_true_iff]

def childIds (tree : Tree α) (id : ℕ) : List ℕ :=
  (tree.childNodes id).map (·.id)

/-- Nodes are where their ids say, parents come before their children, and only the first node has
none; the list of children of a node has those whose parent it is. -/
structure WellFormed (tree : Tree α) : Prop where
  id_eq : ∀ {i node}, tree.get? i = some node → node.id = i
  parent_lt : ∀ {i node parent}, tree.get? i = some node → node.parent = some parent → parent < i
  parent_eq_none_iff : ∀ {i node}, tree.get? i = some node → (node.parent = none ↔ i = 0)
  children_eq : ∀ {i node}, tree.get? i = some node → node.children = tree.childIds i

theorem wellFormed_empty : (empty : Tree α).WellFormed := by
  have hnone {i : ℕ} {node : Node α} (h : (empty : Tree α).get? i = some node) : False := by
    cases h
  exact ⟨fun h ↦ (hnone h).elim, fun h ↦ (hnone h).elim, fun h ↦ (hnone h).elim,
    fun h ↦ (hnone h).elim⟩

namespace WellFormed

variable {tree : Tree α} (h : tree.WellFormed)
include h

theorem pathToRoot_zero {root : Node α} (hroot : tree.get? 0 = some root) :
    tree.pathToRoot 0 = [0] := by
  rw [pathToRoot_of_get? hroot, (h.parent_eq_none_iff hroot).mpr rfl]

theorem pathToRoot_of_parent {id parent : ℕ} {node : Node α} (hnode : tree.get? id = some node)
    (hparent : node.parent = some parent) : tree.pathToRoot id = id :: tree.pathToRoot parent := by
  rw [pathToRoot_of_get? hnode, hparent]
  exact congrArg (id :: ·) (if_pos (h.parent_lt hnode hparent))

end WellFormed

end Paths

end Tree

variable [Scalar α]

/-- A node as it was when it was created. -/
def Node.asCreated (node : Node α) : Node α :=
  { node with children := [], visits := 0, valueSum := 0 }

namespace Tree

def created (tree : Tree α) : List (Node α) :=
  tree.nodes.map Node.asCreated

@[simp]
theorem length_created (tree : Tree α) : tree.created.length = tree.size :=
  List.length_map ..

theorem map_created {β : Type} {f : Node α → β} (hf : ∀ node, f node.asCreated = f node)
    (tree : Tree α) : tree.created.map f = tree.nodes.map f := by
  simp [created, Function.comp_def, hf]

theorem flatMap_created {β : Type} {f : Node α → List β} (hf : ∀ node, f node.asCreated = f node)
    (tree : Tree α) : tree.created.flatMap f = tree.nodes.flatMap f := by
  rw [List.flatMap_def, map_created hf, ← List.flatMap_def]

theorem get?_created (tree : Tree α) (id : ℕ) :
    tree.created[id]? = (tree.get? id).map Node.asCreated :=
  List.getElem?_map ..

theorem head?_created (tree : Tree α) : tree.created.head? = tree.root?.map Node.asCreated :=
  List.head?_map ..

@[simp]
theorem created_backpropagate (tree : Tree α) (id : ℕ) (reward : α) :
    (tree.backpropagate id reward).created = tree.created := by
  unfold backpropagate created
  generalize tree.pathToRoot id = path
  induction path generalizing tree with
  | nil => rfl
  | cons i path ih =>
    rw [List.foldl_cons]
    refine (ih ⟨_⟩).trans ?_
    exact map_modify_of_forall (g := Node.asCreated) (by intro node; rfl) tree.nodes i

theorem addChild?_eq_some {tree tree' : Tree α} {parent child : ℕ} {blueprint : Blueprint}
    {mutation : Mutation} {train validation : Summary α}
    (h : tree.addChild? parent blueprint mutation train validation = some (tree', child)) :
    parent < tree.size ∧ child = tree.size ∧
      tree'.created = tree.created ++
        [{ id := tree.size, blueprint, parent := some parent, children := [],
           mutation := some mutation, visits := 0, valueSum := 0, train, validation }] := by
  unfold addChild? at h
  split at h
  · next hlt =>
    obtain ⟨rfl, rfl⟩ := Prod.mk.inj (Option.some.inj h)
    refine ⟨hlt, rfl, ?_⟩
    rw [created, List.map_append, map_modify_of_forall (g := Node.asCreated) (by intro node; rfl)]
    rfl
  · cases h

theorem get?_addChild? {tree tree' : Tree α} {parent child : ℕ} {blueprint : Blueprint}
    {mutation : Mutation} {train validation : Summary α}
    (h : tree.addChild? parent blueprint mutation train validation = some (tree', child)) (i : ℕ) :
    tree'.get? i =
      if i = tree.size then
        some { id := tree.size, blueprint, parent := some parent, children := [],
               mutation := some mutation, visits := 0, valueSum := 0, train, validation }
      else
        (tree.get? i).map fun node ↦
          if i = parent then { node with children := node.children ++ [tree.size] } else node := by
  unfold addChild? at h
  split at h
  · obtain ⟨rfl, -⟩ := Prod.mk.inj (Option.some.inj h)
    have hlength : (tree.nodes.modify parent fun node ↦
        { node with children := node.children ++ [tree.size] }).length = tree.size :=
      List.length_modify ..
    rcases lt_trichotomy i tree.size with hlt | rfl | hgt
    · rw [get?, List.getElem?_append_left (by omega), List.getElem?_modify, if_neg hlt.ne]
      simp only [eq_comm (a := parent)]
      rfl
    · rw [get?, List.getElem?_append_right hlength.le, hlength, if_pos rfl]
      simp
    · have hnone : tree.get? i = none := List.getElem?_eq_none hgt.le
      rw [get?, List.getElem?_append_right (by omega), hlength, if_neg hgt.ne', hnone]
      simp
      omega
  · cases h

theorem get?_backpropagate (tree : Tree α) (id : ℕ) (reward : α) (i : ℕ) :
    (tree.backpropagate id reward).get? i = (tree.get? i).map fun node ↦
      if i ∈ tree.pathToRoot id then
        { node with visits := node.visits + 1, valueSum := node.valueSum + reward }
      else node :=
  getElem?_foldl_modify ((tree.pathToRoot_pairwise id).imp fun h ↦ h.ne') tree.nodes i

theorem pathToRoot_eq_of_created {tree tree' : Tree α} {more : List (Node α)}
    (h : tree'.created = tree.created ++ more) {id : ℕ} (hid : id < tree.size) :
    tree'.pathToRoot id = tree.pathToRoot id := by
  induction id using Nat.strongRecOn with
  | ind id ih =>
    have hcreated : tree'.created[id]? = tree.created[id]? := by
      rw [h, List.getElem?_append_left (by rwa [length_created])]
    have hnode : tree.get? id = some tree.nodes[id] := List.getElem?_eq_getElem hid
    rw [get?_created, get?_created, hnode, Option.map_some, Option.map_eq_some_iff] at hcreated
    obtain ⟨node, hnode', hsame⟩ := hcreated
    have hparent : node.parent = tree.nodes[id].parent := congrArg (·.parent) hsame
    rw [pathToRoot_of_get? hnode, pathToRoot_of_get? hnode', hparent]
    split
    · rfl
    · next parent _ =>
      split
      · next hlt => rw [ih parent hlt (hlt.trans hid)]
      · rfl

@[simp]
theorem pathToRoot_backpropagate (tree : Tree α) (node : ℕ) (reward : α) (id : ℕ) :
    (tree.backpropagate node reward).pathToRoot id = tree.pathToRoot id := by
  by_cases hid : id < tree.size
  · have hcreated : (tree.backpropagate node reward).created = tree.created ++ [] := by
      rw [created_backpropagate, List.append_nil]
    exact pathToRoot_eq_of_created hcreated hid
  · have hnone : tree.get? id = none := List.getElem?_eq_none (not_lt.mp hid)
    rw [pathToRoot, pathToRoot, get?_backpropagate, hnone]
    rfl

theorem childIds_eq_created (tree : Tree α) (id : ℕ) :
    tree.childIds id = (tree.created.filter (·.parent = some id)).map (·.id) := by
  rw [childIds, childNodes, created, List.filter_map, List.map_map]
  rfl

theorem childIds_of_created {tree tree' : Tree α} {node : Node α}
    (h : tree'.created = tree.created ++ [node]) (id : ℕ) :
    tree'.childIds id = tree.childIds id ++ if node.parent = some id then [node.id] else [] := by
  rw [childIds_eq_created, h, List.filter_append, List.map_append, ← childIds_eq_created]
  by_cases hparent : node.parent = some id
  · simp [hparent]
  · simp [hparent]

theorem wellFormed_ofRoot (blueprint : Blueprint) (train validation : Summary α) :
    (ofRoot blueprint train validation).WellFormed := by
  have hroot {i : ℕ} {node : Node α} (h : (ofRoot blueprint train validation).get? i = some node) :
      i = 0 ∧ node = { id := 0, blueprint, parent := none, children := [], mutation := none,
                       visits := 0, valueSum := 0, train, validation } := by
    obtain ⟨hlt, hnode⟩ := List.getElem?_eq_some_iff.mp h
    obtain rfl : i = 0 := Nat.lt_one_iff.mp hlt
    exact ⟨rfl, hnode.symm⟩
  refine ⟨?_, ?_, ?_, ?_⟩
  · intro i node h
    obtain ⟨rfl, rfl⟩ := hroot h
    rfl
  · intro i node parent h hparent
    obtain ⟨-, rfl⟩ := hroot h
    cases hparent
  · intro i node h
    obtain ⟨rfl, rfl⟩ := hroot h
    simp
  · intro i node h
    obtain ⟨rfl, rfl⟩ := hroot h
    rfl

namespace WellFormed

variable {tree : Tree α} (h : tree.WellFormed)
include h

theorem addChild? {tree' : Tree α} {parent child : ℕ} {blueprint : Blueprint} {mutation : Mutation}
    {train validation : Summary α}
    (hadd : tree.addChild? parent blueprint mutation train validation = some (tree', child)) :
    tree'.WellFormed := by
  obtain ⟨hparent, -, hcreated⟩ := addChild?_eq_some hadd
  have hget := get?_addChild? hadd
  -- A node is the new one, or one of before with its children.
  have hcases {i : ℕ} {node : Node α} (hnode : tree'.get? i = some node) :
      (i = tree.size ∧ node.id = i ∧ node.parent = some parent ∧ node.children = []) ∨
      ∃ old, tree.get? i = some old ∧ i < tree.size ∧ node.id = old.id ∧
        node.parent = old.parent ∧
        node.children = old.children ++ if i = parent then [tree.size] else [] := by
    rw [hget] at hnode
    split at hnode
    · next hi =>
      obtain rfl := Option.some.inj hnode
      exact .inl ⟨hi, hi.symm, rfl, rfl⟩
    · obtain ⟨old, hold, rfl⟩ := Option.map_eq_some_iff.mp hnode
      refine .inr ⟨old, hold, (List.getElem?_eq_some_iff.mp hold).1, ?_⟩
      split <;> simp
  have hchildIds (i : ℕ) : tree'.childIds i =
      tree.childIds i ++ if i = parent then [tree.size] else [] := by
    rw [childIds_of_created hcreated]
    simp [eq_comm]
  refine ⟨?_, ?_, ?_, ?_⟩
  · intro i node hnode
    obtain ⟨-, hid, -⟩ | ⟨old, hold, -, hid, -⟩ := hcases hnode
    · exact hid
    · exact hid.trans (h.id_eq hold)
  · intro i node p hnode hp
    obtain ⟨rfl, -, hnew, -⟩ | ⟨old, hold, -, -, hsame, -⟩ := hcases hnode
    · obtain rfl := Option.some.inj (hnew.symm.trans hp)
      exact hparent
    · exact h.parent_lt hold (hsame.symm.trans hp)
  · intro i node hnode
    obtain ⟨rfl, -, hnew, -⟩ | ⟨old, hold, -, -, hsame, -⟩ := hcases hnode
    · rw [hnew]
      simp; omega
    · rw [hsame, h.parent_eq_none_iff hold]
  · intro i node hnode
    rw [hchildIds]
    obtain ⟨rfl, -, -, hnew⟩ | ⟨old, hold, -, -, -, hsame⟩ := hcases hnode
    · rw [hnew, if_neg hparent.ne', List.append_nil]
      -- No node has the new one as its parent yet.
      symm
      rw [childIds, childNodes, List.map_eq_nil_iff, List.filter_eq_nil_iff]
      intro node hmem hp
      obtain ⟨j, hj⟩ := List.getElem?_of_mem hmem
      have hlt := h.parent_lt hj (of_decide_eq_true hp)
      have hj' := (List.getElem?_eq_some_iff.mp hj).1
      exact absurd hlt (not_lt.mpr hj'.le)
    · rw [hsame, h.children_eq hold]

theorem backpropagate (id : ℕ) (reward : α) : (tree.backpropagate id reward).WellFormed := by
  have hcases {i : ℕ} {node : Node α} (hnode : (tree.backpropagate id reward).get? i = some node) :
      ∃ old, tree.get? i = some old ∧ node.id = old.id ∧ node.parent = old.parent ∧
        node.children = old.children := by
    rw [get?_backpropagate] at hnode
    obtain ⟨old, hold, rfl⟩ := Option.map_eq_some_iff.mp hnode
    refine ⟨old, hold, ?_⟩
    split <;> exact ⟨rfl, rfl, rfl⟩
  refine ⟨?_, ?_, ?_, ?_⟩
  · intro i node hnode
    obtain ⟨old, hold, hid, -⟩ := hcases hnode
    exact hid.trans (h.id_eq hold)
  · intro i node parent hnode hparent
    obtain ⟨old, hold, -, hsame, -⟩ := hcases hnode
    exact h.parent_lt hold (hsame.symm.trans hparent)
  · intro i node hnode
    obtain ⟨old, hold, -, hsame, -⟩ := hcases hnode
    rw [hsame, h.parent_eq_none_iff hold]
  · intro i node hnode
    obtain ⟨old, hold, -, -, hsame⟩ := hcases hnode
    rw [hsame, h.children_eq hold, childIds_eq_created, childIds_eq_created, created_backpropagate]

end WellFormed

end Tree

end WorkflowSearch
