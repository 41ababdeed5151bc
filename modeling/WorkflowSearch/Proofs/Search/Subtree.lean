import Mathlib.Data.List.Nodup
import Mathlib.Data.List.Perm.Basic
import WorkflowSearch.Proofs.Search.Tree

namespace WorkflowSearch.Tree

variable {α : Type} {tree : Tree α}

/-- The nodes on the way down from a node to another one, without the first and with the last. -/
inductive Descent (tree : Tree α) (top : Node α) : List (Node α) → Node α → Prop
  | refl : Descent tree top [] top
  | child {path : List (Node α)} {parent child : Node α} (above : Descent tree top path parent)
      (mem : child ∈ tree.nodes) (link : child.parent = some parent.id) :
      Descent tree top (path ++ [child]) child

/-- The nodes with a given one on their path to the root, in the order of their creation. -/
def subtree (tree : Tree α) (top : ℕ) : List (Node α) :=
  tree.nodes.filter fun node ↦ top ∈ tree.pathToRoot node.id

theorem mem_subtree {top : ℕ} {node : Node α} :
    node ∈ tree.subtree top ↔ node ∈ tree.nodes ∧ top ∈ tree.pathToRoot node.id := by
  rw [subtree, List.mem_filter, decide_eq_true_iff]

namespace WellFormed

variable (h : tree.WellFormed)
include h

theorem get?_of_mem {node : Node α} (hnode : node ∈ tree.nodes) :
    tree.get? node.id = some node := by
  obtain ⟨i, hi⟩ := List.getElem?_of_mem hnode
  rwa [h.id_eq hi]

theorem id_lt_of_mem {node : Node α} (hnode : node ∈ tree.nodes) : node.id < tree.size :=
  (List.getElem?_eq_some_iff.mp (h.get?_of_mem hnode)).1

theorem eq_of_id_eq {a b : Node α} (ha : a ∈ tree.nodes) (hb : b ∈ tree.nodes)
    (hid : a.id = b.id) : a = b := by
  have hget := h.get?_of_mem ha
  rw [hid, h.get?_of_mem hb] at hget
  exact (Option.some.inj hget).symm

theorem nodes_nodup : tree.nodes.Nodup := by
  rw [List.nodup_iff_getElem?_ne_getElem?]
  intro i j hij hj heq
  have hnode : tree.get? j = some tree.nodes[j] := List.getElem?_eq_getElem hj
  have hid := h.id_eq (heq.trans hnode)
  rw [h.id_eq hnode] at hid
  omega

theorem mem_pathToRoot_self {node : Node α} (hnode : node ∈ tree.nodes) :
    node.id ∈ tree.pathToRoot node.id := by
  rw [pathToRoot_of_get? (h.get?_of_mem hnode)]
  exact List.mem_cons_self

theorem pathToRoot_of_link {above node : Node α} (hnode : node ∈ tree.nodes)
    (hlink : node.parent = some above.id) :
    tree.pathToRoot node.id = node.id :: tree.pathToRoot above.id :=
  h.pathToRoot_of_parent (h.get?_of_mem hnode) hlink

theorem exists_parent {node : Node α} {parent : ℕ} (hnode : node ∈ tree.nodes)
    (hparent : node.parent = some parent) : ∃ above ∈ tree.nodes, above.id = parent := by
  have hlt := (h.parent_lt (h.get?_of_mem hnode) hparent).trans (h.id_lt_of_mem hnode)
  have habove : tree.get? parent = some tree.nodes[parent] := List.getElem?_eq_getElem hlt
  exact ⟨_, List.mem_of_getElem? habove, h.id_eq habove⟩

theorem node_induction {motive : ∀ node ∈ tree.nodes, Prop}
    (root : ∀ node (hnode : node ∈ tree.nodes), node.id = 0 →
      tree.pathToRoot node.id = [node.id] → motive node hnode)
    (child : ∀ above node (habove : above ∈ tree.nodes) (hnode : node ∈ tree.nodes),
      node.parent = some above.id → motive above habove → motive node hnode)
    (node : Node α) (hnode : node ∈ tree.nodes) : motive node hnode := by
  generalize hid : node.id = i
  induction i using Nat.strongRecOn generalizing node with
  | ind i ih =>
    have hget := h.get?_of_mem hnode
    cases hparent : node.parent with
    | none =>
      have hzero := (h.parent_eq_none_iff hget).mp hparent
      rw [hzero] at hget
      refine root node hnode hzero ?_
      rw [hzero, h.pathToRoot_zero hget]
    | some parent =>
      obtain ⟨above, habove, rfl⟩ := h.exists_parent hnode hparent
      have hlt := h.parent_lt hget hparent
      exact child above node habove hnode hparent (ih above.id (hid ▸ hlt) above habove rfl)

theorem pathToRoot_suffix {i : ℕ} {node : Node α} (hnode : node ∈ tree.nodes)
    (hi : i ∈ tree.pathToRoot node.id) : tree.pathToRoot i <:+ tree.pathToRoot node.id := by
  induction node, hnode using h.node_induction with
  | root node _ _ hpath =>
    rw [hpath, List.mem_singleton] at hi
    subst hi
    exact List.suffix_rfl
  | child above node _ hnode hlink ih =>
    rw [h.pathToRoot_of_link hnode hlink, List.mem_cons] at hi
    obtain rfl | hi := hi
    · exact List.suffix_rfl
    · rw [h.pathToRoot_of_link hnode hlink]
      exact (ih hi).trans (List.suffix_cons _ _)

theorem mem_pathToRoot_of_link {above child node : Node α} (habove : above ∈ tree.nodes)
    (hchild : child ∈ tree.nodes) (hlink : child.parent = some above.id) (hnode : node ∈ tree.nodes)
    (hmem : child.id ∈ tree.pathToRoot node.id) : above.id ∈ tree.pathToRoot node.id := by
  refine (h.pathToRoot_suffix hnode hmem).subset ?_
  rw [h.pathToRoot_of_link hchild hlink]
  exact List.mem_cons_of_mem _ (h.mem_pathToRoot_self habove)

theorem exists_child_of_mem_pathToRoot {i : ℕ} {node : Node α} (hnode : node ∈ tree.nodes)
    (hi : i ∈ tree.pathToRoot node.id) :
    i = node.id ∨
      ∃ child ∈ tree.nodes, child.parent = some i ∧ child.id ∈ tree.pathToRoot node.id := by
  induction node, hnode using h.node_induction with
  | root node _ _ hpath =>
    rw [hpath, List.mem_singleton] at hi
    exact .inl hi
  | child above node _ hnode hlink ih =>
    rw [h.pathToRoot_of_link hnode hlink] at hi ⊢
    obtain hi | hi := List.mem_cons.mp hi
    · exact .inl hi
    · right
      obtain rfl | ⟨child, hchild, hlink', hmem⟩ := ih hi
      · exact ⟨node, hnode, hlink, List.mem_cons_self⟩
      · exact ⟨child, hchild, hlink', List.mem_cons_of_mem _ hmem⟩

theorem child_unique {i : ℕ} {a b node : Node α} (ha : a ∈ tree.nodes) (hb : b ∈ tree.nodes)
    (halink : a.parent = some i) (hblink : b.parent = some i) (hnode : node ∈ tree.nodes)
    (hamem : a.id ∈ tree.pathToRoot node.id) (hbmem : b.id ∈ tree.pathToRoot node.id) : a = b := by
  have hapath := h.pathToRoot_of_parent (h.get?_of_mem ha) halink
  have hbpath := h.pathToRoot_of_parent (h.get?_of_mem hb) hblink
  have hasuffix := h.pathToRoot_suffix hnode hamem
  have hbsuffix := h.pathToRoot_suffix hnode hbmem
  -- Both paths are ends of one list and of the same length.
  have hlength : (tree.pathToRoot a.id).length = (tree.pathToRoot b.id).length := by
    rw [hapath, hbpath, List.length_cons, List.length_cons]
  have hsame := (List.suffix_of_suffix_length_le hasuffix hbsuffix hlength.le).eq_of_length hlength
  rw [hapath, hbpath] at hsame
  exact h.eq_of_id_eq ha hb (List.cons.inj hsame).1

theorem mem_subtree_iff {top node : Node α} (htop : top ∈ tree.nodes) :
    node ∈ tree.subtree top.id ↔ ∃ path, tree.Descent top path node := by
  rw [mem_subtree]
  constructor
  · rintro ⟨hnode, hmem⟩
    induction node, hnode using h.node_induction with
    | root node hnode _ hpath =>
      rw [hpath, List.mem_singleton] at hmem
      obtain rfl := h.eq_of_id_eq htop hnode hmem
      exact ⟨[], .refl⟩
    | child above node _ hnode hlink ih =>
      rw [h.pathToRoot_of_link hnode hlink, List.mem_cons] at hmem
      obtain hid | hmem := hmem
      · obtain rfl := h.eq_of_id_eq htop hnode hid
        exact ⟨[], .refl⟩
      · obtain ⟨path, hpath⟩ := ih hmem
        exact ⟨path ++ [node], hpath.child hnode hlink⟩
  · rintro ⟨path, hpath⟩
    induction hpath with
    | refl => exact ⟨htop, h.mem_pathToRoot_self htop⟩
    | child _ hchild hlink ih =>
      refine ⟨hchild, ?_⟩
      rw [h.pathToRoot_of_link hchild hlink]
      exact List.mem_cons_of_mem _ ih.2

theorem root_mem_pathToRoot {node : Node α} (hnode : node ∈ tree.nodes) :
    0 ∈ tree.pathToRoot node.id := by
  induction node, hnode using h.node_induction with
  | root node _ hzero hpath => rw [hpath, hzero, List.mem_singleton]
  | child above node _ hnode hlink ih =>
    rw [h.pathToRoot_of_link hnode hlink]
    exact List.mem_cons_of_mem _ ih

theorem subtree_root : tree.subtree 0 = tree.nodes := by
  rw [subtree, List.filter_eq_self]
  intro node hnode
  exact decide_eq_true (h.root_mem_pathToRoot hnode)

/-- A subtree is its top and the subtrees of the children of its top. -/
theorem subtree_perm {top : Node α} (htop : top ∈ tree.nodes) :
    (tree.subtree top.id).Perm (top :: (tree.childNodes top.id).flatMap (tree.subtree ·.id)) := by
  rw [List.perm_ext_iff_of_nodup]
  · intro node
    rw [mem_subtree, List.mem_cons, List.mem_flatMap]
    constructor
    · rintro ⟨hnode, hmem⟩
      obtain hid | ⟨child, hchild, hlink, hmem⟩ := h.exists_child_of_mem_pathToRoot hnode hmem
      · exact .inl (h.eq_of_id_eq hnode htop hid.symm)
      · exact .inr ⟨child, mem_childNodes.mpr ⟨hchild, hlink⟩, mem_subtree.mpr ⟨hnode, hmem⟩⟩
    · rintro (rfl | ⟨child, hchild, hmem⟩)
      · exact ⟨htop, h.mem_pathToRoot_self htop⟩
      · obtain ⟨hchild, hlink⟩ := mem_childNodes.mp hchild
        obtain ⟨hnode, hmem⟩ := mem_subtree.mp hmem
        exact ⟨hnode, h.mem_pathToRoot_of_link htop hchild hlink hnode hmem⟩
  · exact h.nodes_nodup.filter _
  · rw [List.nodup_cons, List.nodup_flatMap]
    refine ⟨?_, fun child _ ↦ h.nodes_nodup.filter _, ?_⟩
    · intro hmem
      obtain ⟨child, hchild, hmem⟩ := List.mem_flatMap.mp hmem
      obtain ⟨hchild, hlink⟩ := mem_childNodes.mp hchild
      have hle := le_of_mem_pathToRoot (mem_subtree.mp hmem).2
      exact absurd (h.parent_lt (h.get?_of_mem hchild) hlink) (not_lt.mpr hle)
    · refine List.Nodup.pairwise_of_forall_ne (h.nodes_nodup.filter _) ?_
      intro a ha b hb hne node hamem hbmem
      obtain ⟨ha, halink⟩ := mem_childNodes.mp ha
      obtain ⟨hb, hblink⟩ := mem_childNodes.mp hb
      obtain ⟨hnode, hamem⟩ := mem_subtree.mp hamem
      exact hne (h.child_unique ha hb halink hblink hnode hamem (mem_subtree.mp hbmem).2)

end WellFormed

end WorkflowSearch.Tree
