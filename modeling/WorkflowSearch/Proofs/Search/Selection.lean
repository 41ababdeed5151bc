import WorkflowSearch.Proofs.Scalar.Order
import WorkflowSearch.Proofs.Search.Subtree
import WorkflowSearch.Search.Selection

namespace WorkflowSearch.Tree

variable {α : Type}

def expandable (tree : Tree α) (config : SearchConfig α) : List (Node α) :=
  tree.nodes.filter (·.children.length < config.maxChildren)

theorem mem_expandable {tree : Tree α} {config : SearchConfig α} {node : Node α} :
    node ∈ tree.expandable config ↔
      node ∈ tree.nodes ∧ node.children.length < config.maxChildren := by
  rw [expandable, List.mem_filter, decide_eq_true_iff]

namespace WellFormed

variable {tree : Tree α} (h : tree.WellFormed)
include h

theorem pairwise_id_lt : tree.nodes.Pairwise (·.id < ·.id) := by
  rw [List.pairwise_iff_getElem]
  intro i j hi hj hij
  rwa [h.id_eq (List.getElem?_eq_getElem hi), h.id_eq (List.getElem?_eq_getElem hj)]

theorem children_last {node : Node α} (hnode : tree.get? (tree.size - 1) = some node) :
    node.children = [] := by
  rw [h.children_eq hnode, childIds, List.map_eq_nil_iff, List.eq_nil_iff_forall_not_mem]
  intro child hchild
  obtain ⟨hmem, hlink⟩ := mem_childNodes.mp hchild
  have hlt := h.parent_lt (h.get?_of_mem hmem) hlink
  have hsize := h.id_lt_of_mem hmem
  omega

theorem expandable_ne_nil {config : SearchConfig α} (hnodes : tree.nodes ≠ [])
    (hmax : config.maxChildren ≠ 0) : tree.expandable config ≠ [] := by
  have hlast : tree.size - 1 < tree.size := Nat.sub_one_lt_of_lt (List.length_pos_iff.mpr hnodes)
  have hnode : tree.get? (tree.size - 1) = some tree.nodes[tree.size - 1] :=
    List.getElem?_eq_getElem hlast
  refine List.ne_nil_of_mem (mem_expandable.mpr ⟨List.mem_of_getElem? hnode, ?_⟩)
  rw [h.children_last hnode]
  exact Nat.pos_of_ne_zero hmax

end WellFormed

section Selected

variable [Scalar α]

/-- A node with room of the greatest bound, the one of the smallest id if several have it. -/
structure Foremost (tree : Tree α) (config : SearchConfig α) (node : Node α) : Prop where
  bound_le : ∀ other ∈ tree.expandable config,
    confidenceBound tree other config ≤ confidenceBound tree node config
  bound_lt : ∀ other ∈ tree.expandable config, other.id < node.id →
    confidenceBound tree other config < confidenceBound tree node config

/-- If there is a node with room, one is selected; if all bounds are numbers, it divides the nodes
with room into lesser ones and later ones that are not greater. -/
theorem exists_selected [OrderedScalar α] {tree : Tree α} {config : SearchConfig α}
    (h : tree.expandable config ≠ []) :
    let bound (node : Node α) := confidenceBound tree node config
    ∃ before node after, tree.expandable config = before ++ node :: after ∧
      tree.select? config = some node.id ∧
      ((∀ other ∈ tree.expandable config, bound other ≤ bound other) →
        (∀ other ∈ before, bound other < bound node) ∧
        ∀ other ∈ after, bound other ≤ bound node) := by
  intro bound
  obtain ⟨first, rest, hnodes⟩ := List.exists_cons_of_ne_nil h
  let entry (node : Node α) := (node.id, bound node)
  let greatest :=
    (rest.map entry).foldl (fun best e ↦ if best.2 < e.2 then e else best) (entry first)
  have hselect : tree.select? config = some greatest.1 := by
    rw [select?, ← expandable, hnodes]
    rfl
  by_cases hnumbers : ∀ other ∈ tree.expandable config, bound other ≤ bound other
  · have hentries {e : ℕ × α} (he : e ∈ entry first :: rest.map entry) : e.2 ≤ e.2 := by
      rw [← List.map_cons, ← hnodes] at he
      obtain ⟨other, hother, rfl⟩ := List.mem_map.mp he
      exact hnumbers other hother
    obtain ⟨_, best, _, hsplit, hbest, hbefore, hafter⟩ :=
      foldl_first_greatest (r := fun a b : ℕ × α ↦ a.2 < b.2) (fun _ _ ↦ Scalar.lt_asymm)
        (rest.map entry) (entry first) fun a _ b _ c hc ↦ Scalar.lt_or_lt_of_lt (hentries hc)
    rw [← List.map_cons, ← hnodes, List.map_eq_append_iff] at hsplit
    obtain ⟨before, _, hnodes', rfl, hsplit⟩ := hsplit
    obtain ⟨node, after, rfl, rfl, rfl⟩ := List.map_eq_cons_iff.mp hsplit
    have hchosen : tree.select? config = some node.id :=
      hselect.trans (congrArg (fun e ↦ some e.1) hbest)
    refine ⟨before, node, after, hnodes', hchosen, fun _ ↦ ⟨?_, ?_⟩⟩
    · exact List.forall_mem_map.mp hbefore
    · intro other hother
      have hnode := hnumbers node (hnodes' ▸ by simp)
      have hother' := hnumbers other (hnodes' ▸ by simp [hother])
      exact Scalar.le_of_not_lt hnode hother' (List.forall_mem_map.mp hafter other hother)
  · have hmem : greatest ∈ entry first :: rest.map entry :=
      foldl_mem_cons (fun a b ↦ (ite_eq_or_eq _ b a).symm) (rest.map entry) (entry first)
    rw [← List.map_cons, ← hnodes] at hmem
    obtain ⟨node, hnode, heq⟩ := List.mem_map.mp hmem
    obtain ⟨before, after, hsplit⟩ := List.append_of_mem hnode
    exact ⟨before, node, after, hsplit, by rw [hselect, ← heq], fun h ↦ absurd h hnumbers⟩

theorem WellFormed.exists_foremost [OrderedScalar α] {tree : Tree α} (h : tree.WellFormed)
    {config : SearchConfig α} (hnodes : tree.nodes ≠ []) (hmax : config.maxChildren ≠ 0) :
    ∃ node ∈ tree.expandable config, tree.select? config = some node.id ∧
      ((∀ other ∈ tree.expandable config,
          confidenceBound tree other config ≤ confidenceBound tree other config) →
        tree.Foremost config node) := by
  obtain ⟨before, node, after, hsplit, hselect, hgreatest⟩ :=
    exists_selected (h.expandable_ne_nil hnodes hmax)
  have hnode : node ∈ tree.expandable config := hsplit ▸ by simp
  refine ⟨node, hnode, hselect, fun hnumbers ↦ ?_⟩
  obtain ⟨hbefore, hafter⟩ := hgreatest hnumbers
  have hids : (before ++ node :: after).Pairwise (·.id < ·.id) :=
    hsplit ▸ h.pairwise_id_lt.filter _
  rw [List.pairwise_append, List.pairwise_cons] at hids
  obtain ⟨-, ⟨hlater, -⟩, -⟩ := hids
  constructor
  · intro other hother
    rw [hsplit, List.mem_append, List.mem_cons] at hother
    obtain hother | rfl | hother := hother
    · exact (OrderedScalar.lt_iff.mp (hbefore other hother)).1
    · exact hnumbers other hnode
    · exact hafter other hother
  · intro other hother hid
    rw [hsplit, List.mem_append, List.mem_cons] at hother
    obtain hother | rfl | hother := hother
    · exact hbefore other hother
    · exact absurd hid (lt_irrefl _)
    · exact absurd (hlater other hother) hid.not_gt

end Selected

end WorkflowSearch.Tree
