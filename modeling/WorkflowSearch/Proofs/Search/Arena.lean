import Mathlib.Data.List.Induction
import WorkflowSearch.Proofs.Search.Selection

namespace WorkflowSearch

variable {α : Type}

inductive TreeChange (α : Type) where
  | root (blueprint : Blueprint) (train validation : Summary α)
  | child (parent : ℕ) (blueprint : Blueprint) (mutation : Mutation) (train validation : Summary α)
  | reward (node : ℕ) (amount : α)

def TreeChange.isReward : TreeChange α → Bool
  | .reward .. => true
  | _ => false

namespace Tree

/-- The loop behind `pathToRoot` ends with a path: the id under the cursor joins the path, and the
cursor moves to the parent. There is no end if the cursor leaves the tree or never stops. -/
inductive Climbs (tree : Tree α) : List ℕ → Option ℕ → List ℕ → Prop
  | stop {path : List ℕ} : tree.Climbs path none path
  | up {path found : List ℕ} {id : ℕ} {node : Node α} : tree.get? id = some node →
      tree.Climbs (path ++ [id]) node.parent found → tree.Climbs path (some id) found

theorem Climbs.unique {tree : Tree α} {path found found' : List ℕ} {cursor : Option ℕ}
    (h : tree.Climbs path cursor found) (h' : tree.Climbs path cursor found') :
    found = found' := by
  induction h with
  | stop =>
    cases h' with
    | stop => rfl
  | up hnode _ ih =>
    cases h' with
    | up hnode' hrest =>
      obtain rfl := Option.some.inj (hnode.symm.trans hnode')
      exact ih hrest

theorem pathToRoot_eq_nil {tree : Tree α} {id : ℕ} (h : tree.get? id = none) :
    tree.pathToRoot id = [] := by
  rw [pathToRoot, h]

theorem mem_childIds {tree : Tree α} {id child : ℕ} :
    child ∈ tree.childIds id ↔ ∃ node ∈ tree.nodes, node.parent = some id ∧ node.id = child := by
  rw [childIds, List.mem_map]
  simp only [mem_childNodes, and_assoc]

namespace WellFormed

variable {tree : Tree α} (h : tree.WellFormed)
include h

theorem climbs (path : List ℕ) {id : ℕ} (hid : id < tree.size) :
    tree.Climbs path (some id) (path ++ tree.pathToRoot id) := by
  induction id using Nat.strongRecOn generalizing path with
  | ind id ih =>
    have hnode : tree.get? id = some tree.nodes[id] := List.getElem?_eq_getElem hid
    refine .up hnode ?_
    rw [pathToRoot_of_get? hnode]
    cases hparent : tree.nodes[id].parent with
    | none => exact .stop
    | some parent =>
      have hlt := h.parent_lt hnode hparent
      have hrest := ih parent hlt (path ++ [id]) (hlt.trans hid)
      rw [List.append_assoc, List.singleton_append] at hrest
      simpa only [if_pos hlt] using hrest

theorem climbs_iff (id : ℕ) (found : List ℕ) :
    tree.Climbs [] ((tree.get? id).map (·.id)) found ↔ found = tree.pathToRoot id := by
  have hends : tree.Climbs [] ((tree.get? id).map (·.id)) (tree.pathToRoot id) := by
    cases hnode : tree.get? id with
    | none =>
      rw [pathToRoot_eq_nil hnode]
      exact .stop
    | some node =>
      have hid : id < tree.size := (List.getElem?_eq_some_iff.mp hnode).1
      rw [Option.map_some, h.id_eq hnode]
      exact h.climbs [] hid
  exact ⟨fun hfound ↦ hfound.unique hends, fun hfound ↦ hfound ▸ hends⟩

theorem getLast?_pathToRoot {id : ℕ} (hid : id < tree.size) :
    (tree.pathToRoot id).getLast? = some 0 := by
  induction id using Nat.strongRecOn with
  | ind id ih =>
    have hnode : tree.get? id = some tree.nodes[id] := List.getElem?_eq_getElem hid
    cases hparent : tree.nodes[id].parent with
    | none =>
      obtain rfl := (h.parent_eq_none_iff hnode).mp hparent
      rw [h.pathToRoot_zero hnode]
      rfl
    | some parent =>
      have hlt := h.parent_lt hnode hparent
      rw [h.pathToRoot_of_parent hnode hparent, List.getLast?_cons, ih parent hlt (hlt.trans hid)]
      rfl

theorem children_spec {i : ℕ} {node : Node α} (hnode : tree.get? i = some node) :
    node.children.Pairwise (· < ·) ∧
      ∀ id, id ∈ node.children ↔ ∃ child, tree.get? id = some child ∧ child.parent = some i := by
  rw [h.children_eq hnode]
  refine ⟨?_, fun id ↦ ?_⟩
  · rw [childIds, List.pairwise_map]
    exact h.pairwise_id_lt.filter _
  · rw [mem_childIds]
    constructor
    · rintro ⟨child, hchild, hparent, rfl⟩
      exact ⟨child, h.get?_of_mem hchild, hparent⟩
    · rintro ⟨child, hchild, hparent⟩
      exact ⟨child, List.mem_of_getElem? hchild, hparent, h.id_eq hchild⟩

end WellFormed

variable [Scalar α]

/-- The tree after a change. A root takes the place of the whole tree, and a child of a node that
does not exist is not added. -/
def change (tree : Tree α) : TreeChange α → Tree α
  | .root blueprint train validation => ofRoot blueprint train validation
  | .child parent blueprint mutation train validation =>
    ((tree.addChild? parent blueprint mutation train validation).map Prod.fst).getD tree
  | .reward node amount => tree.backpropagate node amount

def ofChanges (changes : List (TreeChange α)) : Tree α :=
  changes.foldl change empty

def visit (tree : Tree α) (id : ℕ) (reward : α) : Tree α :=
  ⟨tree.nodes.modify id fun node ↦
    { node with visits := node.visits + 1, valueSum := node.valueSum + reward }⟩

/-- The loop behind `backpropagate` ends with a tree: the node under the cursor is visited, and the
cursor moves to its parent. There is no end if the cursor never stops. -/
inductive VisitsUpwards (reward : α) : Tree α → Option ℕ → Tree α → Prop
  | stop {tree : Tree α} : VisitsUpwards reward tree none tree
  | missing {tree : Tree α} {id : ℕ} : tree.get? id = none →
      VisitsUpwards reward tree (some id) tree
  | up {tree found : Tree α} {id : ℕ} {node : Node α} : tree.get? id = some node →
      VisitsUpwards reward (tree.visit id reward) node.parent found →
      VisitsUpwards reward tree (some id) found

theorem VisitsUpwards.unique {tree found found' : Tree α} {reward : α} {cursor : Option ℕ}
    (h : VisitsUpwards reward tree cursor found) (h' : VisitsUpwards reward tree cursor found') :
    found = found' := by
  induction h with
  | stop =>
    cases h' with
    | stop => rfl
  | missing hnone =>
    cases h' with
    | missing => rfl
    | up hnode => exact absurd (hnone.symm.trans hnode) (by simp)
  | up hnode _ ih =>
    cases h' with
    | missing hnone => exact absurd (hnone.symm.trans hnode) (by simp)
    | up hnode' hrest =>
      obtain rfl := Option.some.inj (hnode.symm.trans hnode')
      exact ih hrest

@[simp]
theorem created_visit (tree : Tree α) (id : ℕ) (reward : α) :
    (tree.visit id reward).created = tree.created :=
  map_modify_of_forall (g := Node.asCreated) (by intro node; rfl) tree.nodes id

theorem backpropagate_eq_foldl (tree : Tree α) (id : ℕ) (reward : α) :
    tree.backpropagate id reward =
      (tree.pathToRoot id).foldl (fun tree id ↦ tree.visit id reward) tree := by
  unfold backpropagate
  generalize tree.pathToRoot id = path
  induction path generalizing tree with
  | nil => rfl
  | cons i path ih => exact ih (tree.visit i reward)

theorem WellFormed.visitsUpwards {tree visited : Tree α} (h : tree.WellFormed)
    (hcreated : visited.created = tree.created) (reward : α) {id : ℕ} (hid : id < tree.size) :
    VisitsUpwards reward visited (some id)
      ((tree.pathToRoot id).foldl (fun tree id ↦ tree.visit id reward) visited) := by
  -- Visits change neither ids nor parents, so the path to climb is that of the tree before them.
  induction id using Nat.strongRecOn generalizing visited with
  | ind id ih =>
    have hnode : tree.get? id = some tree.nodes[id] := List.getElem?_eq_getElem hid
    obtain ⟨node, hvisited, hparents⟩ :
        ∃ node, visited.get? id = some node ∧ node.parent = tree.nodes[id].parent := by
      have hsame := congrArg (·[id]?) hcreated
      simp only [get?_created, hnode, Option.map_some, Option.map_eq_some_iff] at hsame
      obtain ⟨node, hvisited, hsame⟩ := hsame
      exact ⟨node, hvisited, congrArg (·.parent) hsame⟩
    refine .up hvisited ?_
    rw [hparents, pathToRoot_of_get? hnode, List.foldl_cons]
    cases hparent : tree.nodes[id].parent with
    | none => exact .stop
    | some parent =>
      have hlt := h.parent_lt hnode hparent
      simp only [if_pos hlt]
      exact ih parent hlt ((created_visit visited id reward).trans hcreated) (hlt.trans hid)

theorem WellFormed.visitsUpwards_iff {tree : Tree α} (h : tree.WellFormed) (id : ℕ) (reward : α)
    (found : Tree α) :
    VisitsUpwards reward tree (some id) found ↔ found = tree.backpropagate id reward := by
  have hends : VisitsUpwards reward tree (some id) (tree.backpropagate id reward) := by
    rw [backpropagate_eq_foldl]
    by_cases hid : id < tree.size
    · exact h.visitsUpwards rfl reward hid
    · have hnode : tree.get? id = none := List.getElem?_eq_none (not_lt.mp hid)
      rw [pathToRoot_eq_nil hnode]
      exact .missing hnode
  exact ⟨fun hfound ↦ hfound.unique hends, fun hfound ↦ hfound ▸ hends⟩

theorem addChild?_of_missing {tree : Tree α} {parent : ℕ} (h : tree.get? parent = none)
    (blueprint : Blueprint) (mutation : Mutation) (train validation : Summary α) :
    tree.addChild? parent blueprint mutation train validation = none :=
  if_neg (not_lt.mpr (List.getElem?_eq_none_iff.mp h))

theorem change_of_missing {tree : Tree α} {parent : ℕ} (h : tree.get? parent = none)
    (blueprint : Blueprint) (mutation : Mutation) (train validation : Summary α) :
    tree.change (.child parent blueprint mutation train validation) = tree := by
  dsimp only [change]
  rw [addChild?_of_missing h]
  rfl

theorem change_child_cases (tree : Tree α) (parent : ℕ) (blueprint : Blueprint)
    (mutation : Mutation) (train validation : Summary α) :
    tree.change (.child parent blueprint mutation train validation) = tree ∨
      ∃ child, tree.addChild? parent blueprint mutation train validation =
        some (tree.change (.child parent blueprint mutation train validation), child) := by
  dsimp only [change]
  cases tree.addChild? parent blueprint mutation train validation with
  | none => exact .inl rfl
  | some added => exact .inr ⟨added.2, rfl⟩

theorem WellFormed.change {tree : Tree α} (h : tree.WellFormed) (c : TreeChange α) :
    (tree.change c).WellFormed := by
  cases c with
  | root blueprint train validation => exact wellFormed_ofRoot blueprint train validation
  | child parent blueprint mutation train validation =>
    obtain hsame | ⟨child, hadd⟩ :=
      tree.change_child_cases parent blueprint mutation train validation
    · rwa [hsame]
    · exact h.addChild? hadd
  | reward node amount => exact h.backpropagate node amount

theorem visits_change_le {tree : Tree α} {bound : ℕ}
    (h : ∀ node ∈ tree.nodes, node.visits ≤ bound) (c : TreeChange α) :
    ∀ node ∈ (tree.change c).nodes, node.visits ≤ bound + if c.isReward then 1 else 0 := by
  intro node hnode
  obtain ⟨i, hi⟩ := List.getElem?_of_mem hnode
  cases c with
  | root blueprint train validation =>
    obtain rfl := List.mem_singleton.mp hnode
    exact Nat.zero_le _
  | child parent blueprint mutation train validation =>
    obtain hsame | ⟨child, hadd⟩ :=
      tree.change_child_cases parent blueprint mutation train validation
    · exact h node (hsame ▸ hnode)
    · have hget := (get?_addChild? hadd i).symm.trans hi
      split at hget
      · obtain rfl := Option.some.inj hget
        exact Nat.zero_le _
      · obtain ⟨old, hold, rfl⟩ := Option.map_eq_some_iff.mp hget
        have hle := h old (List.mem_of_getElem? hold)
        split <;> exact hle
  | reward id amount =>
    have hget := (get?_backpropagate tree id amount i).symm.trans hi
    obtain ⟨old, hold, rfl⟩ := Option.map_eq_some_iff.mp hget
    have hle := h old (List.mem_of_getElem? hold)
    split
    · exact Nat.succ_le_succ hle
    · exact hle.trans (Nat.le_succ bound)

theorem ofChanges_concat (changes : List (TreeChange α)) (c : TreeChange α) :
    ofChanges (changes ++ [c]) = (ofChanges changes).change c :=
  List.foldl_concat ..

theorem wellFormed_ofChanges (changes : List (TreeChange α)) : (ofChanges changes).WellFormed := by
  induction changes using List.reverseRecOn with
  | nil => exact wellFormed_empty
  | append_singleton changes c ih =>
    rw [ofChanges_concat]
    exact ih.change c

theorem visits_ofChanges_le (changes : List (TreeChange α)) :
    ∀ node ∈ (ofChanges changes).nodes, node.visits ≤ changes.countP (·.isReward) := by
  induction changes using List.reverseRecOn with
  | nil => exact fun node hnode ↦ (List.not_mem_nil hnode).elim
  | append_singleton changes c ih =>
    rw [ofChanges_concat, List.countP_append, List.countP_singleton]
    exact visits_change_le ih c

/-- In a tree that any changes have led to, every node has its place as its id, only the first node
has no parent, and any other has one that comes before it; its children are those that have it as
their parent, in ascending order. It has no more visits than there were rewards, so a counter of 32
bits holds them as long as there are fewer than `2 ^ 32` rewards. A child of a node that does not
exist changes nothing.

The way up from a node ends, and descends strictly to the first node; there is none from a node that
does not exist. A reward ends too. It counts one visit and its amount at every node on the way, each
of which is there once, and leaves all else as it was. -/
theorem ofChanges_climbs (changes : List (TreeChange α)) :
    let tree := ofChanges changes
    (∀ i node, tree.get? i = some node →
      node.id = i ∧ (node.parent = none ↔ i = 0) ∧
      (∀ parent, node.parent = some parent → parent < i) ∧
      node.children.Pairwise (· < ·) ∧
      (∀ id, id ∈ node.children ↔ ∃ child, tree.get? id = some child ∧ child.parent = some i) ∧
      node.visits ≤ changes.countP (·.isReward) ∧
      (changes.countP (·.isReward) < UInt32.size → node.visits < UInt32.size)) ∧
    (∀ parent blueprint mutation train validation, tree.get? parent = none →
      tree.addChild? parent blueprint mutation train validation = none ∧
      tree.change (.child parent blueprint mutation train validation) = tree) ∧
    (∀ id,
      (∀ path, tree.Climbs [] ((tree.get? id).map (·.id)) path ↔ path = tree.pathToRoot id) ∧
      (tree.pathToRoot id).Pairwise (· > ·) ∧
      (tree.pathToRoot id).head? = (tree.get? id).map (·.id) ∧
      (tree.pathToRoot id).getLast? = (tree.get? id).map fun _ ↦ 0) ∧
    ∀ id amount,
      (∀ visited, VisitsUpwards amount tree (some id) visited ↔
        visited = tree.backpropagate id amount) ∧
      ∀ i, (tree.backpropagate id amount).get? i = (tree.get? i).map fun node ↦
        if i ∈ tree.pathToRoot id then
          { node with visits := node.visits + 1, valueSum := node.valueSum + amount }
        else node := by
  intro tree
  have hformed : tree.WellFormed := wellFormed_ofChanges changes
  refine ⟨fun i node hnode ↦ ?_, fun parent blueprint mutation train validation hmissing ↦ ?_,
    fun id ↦ ?_, fun id amount ↦ ?_⟩
  · obtain ⟨hsorted, hchildren⟩ := hformed.children_spec hnode
    have hvisits := visits_ofChanges_le changes node (List.mem_of_getElem? hnode)
    exact ⟨hformed.id_eq hnode, hformed.parent_eq_none_iff hnode,
      fun parent ↦ hformed.parent_lt hnode, hsorted, hchildren, hvisits, hvisits.trans_lt⟩
  · exact ⟨addChild?_of_missing hmissing blueprint mutation train validation,
      change_of_missing hmissing blueprint mutation train validation⟩
  · refine ⟨hformed.climbs_iff id, tree.pathToRoot_pairwise id, ?_⟩
    cases hnode : tree.get? id with
    | none => simp [pathToRoot_eq_nil hnode]
    | some node =>
      have hid : id < tree.size := (List.getElem?_eq_some_iff.mp hnode).1
      refine ⟨?_, hformed.getLast?_pathToRoot hid⟩
      rw [pathToRoot_of_get? hnode, List.head?_cons, Option.map_some, hformed.id_eq hnode]
  · exact ⟨hformed.visitsUpwards_iff id amount, tree.get?_backpropagate id amount⟩

end Tree

end WorkflowSearch
