import Mathlib.Data.Finset.Card
import WorkflowSearch.Proofs.Blueprint.Document
import WorkflowSearch.Proofs.Blueprint.MutationText
import WorkflowSearch.Proofs.Search.Conformance
import WorkflowSearch.Proofs.Search.Lineage
import WorkflowSearch.Search.Selection

namespace WorkflowSearch

/-- Initial blueprints, and what mutations make of them. -/
inductive Evolved : Blueprint → Prop
  | initial {id appName task : String} {ranked : List Tool} {mode : Topology} {root : Blueprint}
      (h : Blueprint.initial id appName task ranked mode = .ok root) : Evolved root
  | mutated {α σ : Type} [Scalar α] {mutator : Mutator α} {family : MutationFamily}
      {parent child : Blueprint} {parentTrain : Summary α} {childId : String}
      {context : SearchContext α σ} {mutation : Mutation} (hparent : Evolved parent)
      (h : (mutator.apply family parent parentTrain childId context).1 = .ok (child, mutation)) :
      Evolved child

theorem Parts.Conforms.isOperatorName {parts : Parts} (h : parts.Conforms) {op : Operator}
    (hop : op ∈ parts.operators) : IsOperatorName op.name := by
  have hnames : (parts.operators.map (Operator.reset [])).map (·.name) =
      parts.operators.map (·.name) := by
    simp only [List.map_map, Function.comp_def, Operator.reset]
  refine ⟨parts.topology, ?_⟩
  rw [← h.operators [], hnames]
  exact List.mem_map_of_mem hop

theorem Parts.Changed.namesOperator {catalog : List Tool} {task : String} {mutation : Mutation}
    {parts changed : Parts} (h : parts.Changed catalog task mutation changed)
    (hconforms : parts.Conforms) : mutation.NamesOperator := by
  cases h with
  | promptRevision target => exact hconforms.isOperatorName (List.mem_of_getElem? target)
  | toolAdd _ _ target => exact hconforms.isOperatorName (List.mem_of_getElem? target)
  | toolRemove | toolNoop | topologySwitch => trivial

namespace Evolved

variable {blueprint : Blueprint} (h : Evolved blueprint)
include h

theorem conforms : blueprint.parts.Conforms := by
  induction h with
  | initial hroot => exact Parts.conforms_of_initial hroot
  | @mutated _ _ _ _ _ parent _ _ _ _ _ _ happly ih =>
    obtain ⟨changed, hchanged, hchild⟩ := Mutator.derives_of_apply _ _ happly
    rw [hchild]
    exact (ih.changed hchanged parent.parts_sound).derived _ _ _

theorem namesOperator : ∀ mutation ∈ blueprint.parts.lineage, mutation.NamesOperator := by
  induction h with
  | initial hroot =>
    rw [Blueprint.parts_of_ofParts hroot]
    simp [Blueprint.initialParts]
  | mutated hparent happly ih =>
    obtain ⟨changed, hchanged, hchild⟩ := Mutator.derives_of_apply _ _ happly
    rw [hchild, Parts.derived, hchanged.lineage_eq, List.forall_mem_append,
      List.forall_mem_singleton]
    exact ⟨ih, hchanged.namesOperator hparent.conforms⟩

end Evolved

theorem SearchProblem.evolved_of_run {α σ : Type} [Scalar α] [RandomSource σ]
    {problem : SearchProblem α} {id appName task : String} {ranked : List Tool} {mode : Topology}
    {root : Blueprint} (hroot : Blueprint.initial id appName task ranked mode = .ok root)
    {source : σ} {history : History} {outcome : SearchOutcome α σ}
    (h : problem.run root source history = .ok outcome) :
    ∀ node ∈ outcome.final.tree.nodes, Evolved node.blueprint := by
  obtain ⟨first, hseeded⟩ := problem.exists_seeded root source history
  have hmap (tree : Tree α) : tree.created.map (·.blueprint) = tree.nodes.map (·.blueprint) :=
    Tree.map_created (by intro node; rfl) tree
  have hevolved : ∀ blueprint ∈ outcome.final.tree.created.map (·.blueprint), Evolved blueprint := by
    refine (reaches_of_run h).2.applied_induction
      (P := fun state ↦ ∀ blueprint ∈ state.tree.created.map (·.blueprint), Evolved blueprint) ?_ ?_
    · intro _ _ _ before after parent child entry hparent _ hexpanded happlied hbefore
      obtain ⟨hderived, -⟩ := happlied
      have hparent : parent ∈ before.tree.nodes := List.mem_of_getElem? hparent
      rw [hexpanded.created, List.map_append, List.forall_mem_append, List.map_singleton,
        List.forall_mem_singleton]
      refine ⟨hbefore, .mutated (hbefore _ ?_) (congrArg Prod.fst hderived)⟩
      rw [hmap]
      exact List.mem_map_of_mem hparent
    · rw [hseeded.created, List.map_singleton, List.forall_mem_singleton, hseeded.blueprint]
      exact .initial hroot
  rw [hmap] at hevolved
  exact List.forall_mem_map.mp hevolved

theorem length_eraseDups_map {β γ : Type} [DecidableEq β] [DecidableEq γ] {f : β → γ} {l : List β}
    (hinj : ∀ b ∈ l, ∀ b' ∈ l, f b = f b' → b = b') :
    (l.map f).eraseDups.length = l.toFinset.card := by
  have hset : (l.map f).eraseDups.toFinset = l.toFinset.image f := by
    ext c
    simp
  rw [← List.toFinset_card_of_nodup (nodup_eraseDups _), hset]
  refine Finset.card_image_of_injOn fun b hb b' hb' ↦ hinj b ?_ b' ?_
  · simpa using hb
  · simpa using hb'

section

variable {α : Type} [Scalar α] {first second : Blueprint}

/-- Blueprints that mutations make of initial ones are the same if their documents are, members in
whatever order. The texts of two mutations in their lineages are the same for the same mutations
only, so the novelty of a node counts its distinct structural mutations. -/
theorem document_determines (hfirst : Evolved first) (hsecond : Evolved second) :
    (first.document.canonical = second.document.canonical → first = second) ∧
    (∀ mutation ∈ first.parts.lineage, ∀ mutation' ∈ second.parts.lineage,
      mutation.text = mutation'.text → mutation = mutation') ∧
    ∀ (tree : Tree α) (node : Node α) (weight : α), node.blueprint = first →
      let lineage := first.parts.lineage
      let shifted := tree.root?.any (·.blueprint.parts.topology ≠ first.parts.topology)
      novelty tree node weight =
        weight * (share (lineage.filter (·.isStructural)).toFinset.card lineage.length +
          if shifted then 0.5 else 0) := by
  have htexts {a b : Blueprint} (ha : Evolved a) (hb : Evolved b) :
      ∀ mutation ∈ a.parts.lineage, ∀ mutation' ∈ b.parts.lineage,
        mutation.text = mutation'.text → mutation = mutation' :=
    fun _ hm _ hm' ↦ Mutation.text_injOn (ha.namesOperator _ hm) (hb.namesOperator _ hm')
  refine ⟨fun hdocuments ↦ ?_, htexts hfirst hsecond, ?_⟩
  · have hspells := second.distinct_document.spells_canonical
    rw [← hdocuments] at hspells
    obtain ⟨hparts, hlineage⟩ :=
      Blueprint.parts_eq_of_meet ⟨_, first.distinct_document.spells_canonical, hspells⟩
    rw [eq_of_map_eq (htexts hfirst hsecond) hlineage] at hparts
    cases first
    cases second
    cases hparts
    rfl
  · rintro tree node weight rfl lineage shifted
    have hdistinct := length_eraseDups_map (l := lineage.filter (·.isStructural)) fun m hm m' hm' ↦
      htexts hfirst hfirst m (List.mem_of_mem_filter hm) m' (List.mem_of_mem_filter hm')
    rw [novelty, hdistinct]

theorem Mutator.toolChange_of_new {mutator : Mutator α} {parent : Blueprint} {tool : Tool}
    (hcatalog : mutator.catalog = [tool]) (hnew : parent.hasTool tool.id = false)
    (hfew : parent.parts.tools.length ≤ 1) (gains : ToolGains α) :
    mutator.toolChange parent gains = .add tool := by
  have hranked (gains : ToolGains α) :
      (rankTools mutator.task mutator.intents gains mutator.catalog).find?
        (!parent.hasTool ·.id) = some tool := by
    simp [rankTools, hcatalog, hnew]
  have hone : ¬ (mutator.config.enableToolHistoricalGain = true ∧ 1 < parent.parts.tools.length) :=
    fun h ↦ absurd h.2 (Nat.not_lt.mpr hfew)
  simp only [toolChange, if_neg hone, hranked]

end

theorem Evolved.exists_toolAdd (id : String) :
    ∃ child, Evolved child ∧ child.parts.lineage = [.toolAdd id "solver"] := by
  let root : Blueprint := ⟨Blueprint.initialParts "bp_0" "demo" "t" [] .linear, by decide⟩
  let tool : Tool := ⟨id, [], ""⟩
  let mutator : Mutator ℚ :=
    { config := SearchConfig.default, task := "t", intents := [], catalog := [tool] }
  let context : SearchContext ℚ Unit := .initial ()
  have hroot : Evolved root := .initial (Blueprint.ofParts_of_sound root.parts_sound)
  have hfew : root.parts.tools.length ≤ 1 := Nat.zero_le 1
  have hchange := mutator.toolChange_of_new rfl rfl hfew context.gains
  have hop : root.parts.operators[root.parts.executorIndex]? = some root.parts.operators[0] := rfl
  obtain ⟨child, hchild, -⟩ := mutator.derive_of_changed root
    (.toolAdd List.mem_cons_self List.not_mem_nil hop) "bp_1"
  have happly : (mutator.apply .tool root (summarize root .train [] .default 0 0) "bp_1" context).1 =
      .ok (child, .toolAdd id "solver") := by
    simp only [Mutator.apply, Mutator.changeTools, hchange, hop]
    exact hchild
  refine ⟨child, hroot.mutated happly, ?_⟩
  rw [(Mutator.of_derive_eq_ok root hchild).1]
  rfl

/-- A tool whose id looks like an arrow to the operator is told from the tool before the arrow. -/
theorem arrow_in_id_told_apart : ∃ first second : Blueprint, Evolved first ∧ Evolved second ∧
    first.parts.lineage = [.toolAdd "a" "solver"] ∧
    second.parts.lineage = [.toolAdd "a->solver" "solver"] ∧
    first.document.canonical ≠ second.document.canonical := by
  obtain ⟨first, hfirst, hlineage⟩ := Evolved.exists_toolAdd "a"
  obtain ⟨second, hsecond, hlineage'⟩ := Evolved.exists_toolAdd "a->solver"
  refine ⟨first, second, hfirst, hsecond, hlineage, hlineage', fun hdocuments ↦ ?_⟩
  obtain rfl := (document_determines (α := ℚ) hfirst hsecond).1 hdocuments
  rw [hlineage] at hlineage'
  simp at hlineage'

end WorkflowSearch
