import WorkflowSearch.Proofs.Search.Conformance

namespace WorkflowSearch

variable {α σ : Type}

/-- A text is a part in which no sections begin, and the sections behind it. -/
structure SplitsAtSections (text base sections : String) : Prop where
  append : text = base ++ sections
  isSections : IsSections sections
  first : ∀ n < base.toList.length, ¬ sectionMarker <+: text.toList.drop n

theorem exists_splitsAtSections (prompt : String) :
    ∃ base, SplitsAtSections prompt base (learnedSections prompt) := by
  cases hfound : Text.findFrom? sectionMarker prompt.toList with
  | none =>
    have hlearned : learnedSections prompt = "" := by simp [learnedSections, hfound]
    refine ⟨prompt, by simp [hlearned], hlearned ▸ .inl rfl, fun n _ hbegins ↦ ?_⟩
    exact Text.findFrom?_eq_none_iff.mp hfound
      (hbegins.isInfix.trans (List.drop_suffix n _).isInfix)
  | some found =>
    obtain ⟨before, hbefore, hfirst⟩ := Text.exists_before_of_findFrom? hfound
    have hlearned : (learnedSections prompt).toList = found := by simp [learnedSections, hfound]
    refine ⟨.ofList before, ?_, isSections_learnedSections prompt, by simpa using hfirst⟩
    rw [← String.toList_inj, String.toList_append, String.toList_ofList, hlearned, hbefore]

theorem SplitsAtSections.unique {text base base' sections sections' : String}
    (h : SplitsAtSections text base sections) (h' : SplitsAtSections text base' sections') :
    base = base' ∧ sections = sections' := by
  have hnot {b b' s s' : String} (hb : SplitsAtSections text b s)
      (hb' : SplitsAtSections text b' s') : ¬ b.toList.length < b'.toList.length := by
    intro hlt
    have htext : text.toList = b.toList ++ s.toList := by rw [hb.append, String.toList_append]
    have htext' : text.toList = b'.toList ++ s'.toList := by rw [hb'.append, String.toList_append]
    obtain rfl | hmarker := hb.isSections
    · have hlength := congrArg List.length (htext.symm.trans htext')
      simp only [List.length_append, String.toList_empty, List.length_nil] at hlength
      omega
    · refine hb'.first _ hlt ?_
      rwa [htext, List.drop_left]
  have hlength : base.toList.length = base'.toList.length :=
    Nat.le_antisymm (Nat.le_of_not_lt (hnot h' h)) (Nat.le_of_not_lt (hnot h h'))
  have happend : base.toList ++ sections.toList = base'.toList ++ sections'.toList := by
    rw [← String.toList_append, ← String.toList_append, ← h.append, ← h'.append]
  obtain ⟨hbase, hsections⟩ := List.append_inj happend hlength
  exact ⟨String.toList_inj.mp hbase, String.toList_inj.mp hsections⟩

theorem IsBasePrompt.splitsAtSections {base sections : String} (h : IsBasePrompt base)
    (hsections : IsSections sections) : SplitsAtSections (base ++ sections) base sections := by
  obtain ⟨before, hsplit⟩ := exists_splitsAtSections (base ++ sections)
  rw [h.learnedSections_append hsections] at hsplit
  obtain rfl : base = before := (String.append_left_inj sections).mp hsplit.append
  exact hsplit

theorem learnedSections_eq_empty_iff (prompt : String) :
    learnedSections prompt = "" ↔ ¬ sectionMarker <:+: prompt.toList := by
  rw [← Text.findFrom?_eq_none_iff]
  constructor
  · intro hempty
    cases hfound : Text.findFrom? sectionMarker prompt.toList with
    | none => rfl
    | some found =>
      have hnil : found = [] := by simpa [learnedSections, hfound] using hempty
      have hbegins := Text.prefix_of_findFrom? hfound
      rw [hnil] at hbegins
      cases List.prefix_nil.mp hbegins
  · intro hnone
    simp [learnedSections, hnone]

/-- The sections that a duty takes over: those of the first operator of the duty with any, and none
if there is no such operator. -/
def Inherits (operators : List Operator) (duty : Duty) (sections : String) : Prop :=
  (∃ before old after base, operators = before ++ old :: after ∧ old.role.duty = duty ∧
      sectionMarker <:+: old.prompt.toList ∧ SplitsAtSections old.prompt base sections ∧
      ∀ earlier ∈ before, earlier.role.duty = duty → ¬ sectionMarker <:+: earlier.prompt.toList) ∨
    sections = "" ∧
      ∀ old ∈ operators, old.role.duty = duty → ¬ sectionMarker <:+: old.prompt.toList

theorem inheritedSections_eq (operators : List Operator) (duty : Duty) :
    inheritedSections operators duty =
      ((operators.find? fun op ↦ op.role.duty = duty ∧ learnedSections op.prompt ≠ "").map
        (learnedSections ·.prompt)).getD "" := by
  unfold inheritedSections
  dsimp only
  rw [List.find?_map, List.find?_filter]
  congr 3
  funext op
  simp

theorem inherits_inheritedSections (operators : List Operator) (duty : Duty) :
    Inherits operators duty (inheritedSections operators duty) := by
  have hsome (op : Operator) : learnedSections op.prompt ≠ "" ↔
      sectionMarker <:+: op.prompt.toList :=
    not_iff_comm.mp (learnedSections_eq_empty_iff op.prompt).symm
  rw [inheritedSections_eq]
  simp only [hsome]
  cases hfound : operators.find? fun op ↦
      op.role.duty = duty ∧ sectionMarker <:+: op.prompt.toList with
  | none =>
    refine .inr ⟨rfl, fun old hold hduty hmarker ↦ ?_⟩
    have hnone := List.find?_eq_none.mp hfound old hold
    exact hnone (decide_eq_true ⟨hduty, hmarker⟩)
  | some old =>
    obtain ⟨hold, before, after, hoperators, hbefore⟩ :=
      List.find?_eq_some_iff_append.mp hfound
    obtain ⟨hduty, hmarker⟩ := of_decide_eq_true hold
    obtain ⟨base, hsplit⟩ := exists_splitsAtSections old.prompt
    refine .inl ⟨before, old, after, base, hoperators, hduty, hmarker, hsplit, ?_⟩
    intro earlier hearlier hduty' hmarker'
    have hnot := hbefore earlier hearlier
    rw [decide_eq_true ⟨hduty', hmarker'⟩] at hnot
    cases hnot

namespace Parts

variable {parts : Parts}

theorem Sound.mem_boundTools (h : parts.Sound) {id : String} :
    id ∈ parts.boundTools ↔ ∃ op ∈ parts.operators, id ∈ op.tools := by
  simp only [boundTools, List.mem_filter, List.any_eq_true, List.contains_iff_mem]
  constructor
  · exact fun hbound ↦ hbound.2
  · rintro ⟨op, hop, hid⟩
    exact ⟨h.tools_known op hop id hid, op, hop, hid⟩

theorem boundTools_sublist (parts : Parts) : parts.boundTools.Sublist (parts.tools.map (·.id)) :=
  List.filter_sublist

theorem tools_of_mem_switched {op : Operator} (h : op ∈ parts.switched.operators) :
    op.tools = parts.boundTools := by
  obtain ⟨standard, hstandard, rfl⟩ := List.mem_map.mp h
  have htools := Topology.tools_of_mem_operators hstandard
  exact htools

theorem forall₂_switched (parts : Parts) (tools : List String) :
    List.Forall₂ (fun standard op ↦ op.name = standard.name ∧ op.role = standard.role ∧
        op.outputSchema = standard.outputSchema ∧
        ∃ sections, SplitsAtSections op.prompt standard.prompt sections ∧
          Inherits parts.operators standard.role.duty sections)
      (parts.switched.topology.operators tools) parts.switched.operators := by
  unfold switched
  rw [← Topology.map_operators _ parts.boundTools tools, List.forall₂_map_left_iff,
    List.forall₂_map_right_iff, List.forall₂_same]
  intro standard hstandard
  have hbase := Topology.isBasePrompt_of_mem_operators hstandard
  exact ⟨rfl, rfl, rfl, _, hbase.splitsAtSections (isSections_inheritedSections _ _),
    inherits_inheritedSections _ _⟩

end Parts

variable [Scalar α]

/-- A topology mutation of any blueprint yields the next mode. The tool set stays, and so does the
set of tools that operators list; every new operator lists each of those once, in the order of the
tool set. The prompt of a new operator is the one of its mode up to the first section, and from
there on it has the sections of the first old operator of the same duty with any. -/
theorem Mutator.switch_keeps (mutator : Mutator α) (parent : Blueprint) (parentTrain : Summary α)
    (childId : String) (context : SearchContext α σ) :
    let old := parent.parts
    ∃ child, (mutator.apply .topology parent parentTrain childId context).1 =
        .ok (child, .topologySwitch old.topology old.topology.next) ∧
      let new := child.parts
      new.topology = old.topology.next ∧ new.tools = old.tools ∧
      (∀ id, (∃ op ∈ new.operators, id ∈ op.tools) ↔ ∃ op ∈ old.operators, id ∈ op.tools) ∧
      (∀ op ∈ new.operators, op.tools.Nodup ∧ op.tools.Sublist (old.tools.map (·.id)) ∧
        ∀ id, id ∈ op.tools ↔ ∃ other ∈ old.operators, id ∈ other.tools) ∧
      List.Forall₂ (fun standard op ↦ op.name = standard.name ∧ op.role = standard.role ∧
          op.outputSchema = standard.outputSchema ∧
          ∃ sections, SplitsAtSections op.prompt standard.prompt sections ∧
            Inherits old.operators standard.role.duty sections)
        (old.topology.next.operators []) new.operators := by
  intro old
  have hsound := parent.parts_sound
  obtain ⟨child, hchild, -⟩ :=
    mutator.derive_of_changed parent .topologySwitch childId
  obtain ⟨hparts, -⟩ := Mutator.of_derive_eq_ok parent hchild
  have hoperators : child.parts.operators = old.switched.operators := by rw [hparts]; rfl
  have htools (op : Operator) (hop : op ∈ old.switched.operators) (id : String) :
      id ∈ op.tools ↔ ∃ other ∈ old.operators, id ∈ other.tools := by
    rw [Parts.tools_of_mem_switched hop, hsound.mem_boundTools]
  refine ⟨child, hchild, ?_⟩
  dsimp only
  rw [hoperators]
  refine ⟨by rw [hparts]; rfl, by rw [hparts]; rfl, fun id ↦ ?_, fun op hop ↦ ⟨?_, ?_, htools op hop⟩,
    old.forall₂_switched []⟩
  · obtain ⟨first, hfirst⟩ := List.exists_mem_of_ne_nil _ hsound.switched.nonempty
    constructor
    · rintro ⟨op, hop, hid⟩
      exact (htools op hop id).mp hid
    · exact fun hused ↦ ⟨first, hfirst, (htools first hfirst id).mpr hused⟩
  · rw [Parts.tools_of_mem_switched hop]
    exact hsound.tools_nodup.sublist old.boundTools_sublist
  · rw [Parts.tools_of_mem_switched hop]
    exact old.boundTools_sublist

end WorkflowSearch
