import Mathlib.Data.List.Count
import WorkflowSearch.Proofs.Blueprint.Soundness

namespace WorkflowSearch

/-- What an error says of the contents. The operator of a dangling tool is the first of its name. -/
def BlueprintError.Describes (parts : Parts) : BlueprintError → Prop
  | .noOperators => parts.operators = []
  | .duplicateOperator name => 2 ≤ (parts.operators.map (·.name)).count name
  | .duplicateTool id => 2 ≤ (parts.tools.map (·.id)).count id
  | .danglingTool operator tool =>
    (∃ op, parts.operators.find? (·.name == operator) = some op ∧ tool ∈ op.tools) ∧
      tool ∉ parts.tools.map (·.id)
  | .danglingOperator name =>
    (∃ e ∈ parts.edges, e.source = name ∨ e.target = name) ∧
      name ∉ parts.operators.map (·.name)

theorem two_le_count_of_mem_before {before : List String} {s : String} (h : s ∈ before)
    (after : List String) : 2 ≤ (before ++ s :: after).count s := by
  have hbefore := List.count_pos_iff.mpr h
  rw [List.count_append, List.count_cons_self]
  omega

theorem exists_of_firstRepeated? {seen ids : List String} {id : String}
    (h : firstRepeated? seen ids = some id) :
    ∃ before after, ids = before ++ id :: after ∧ id ∈ before ++ seen := by
  induction ids generalizing seen with
  | nil => cases h
  | cons first ids ih =>
    rw [firstRepeated?] at h
    split at h
    · next hseen =>
      obtain rfl := Option.some.inj h
      exact ⟨[], ids, rfl, List.contains_iff_mem.mp hseen⟩
    · obtain ⟨before, after, rfl, hrepeated⟩ := ih h
      refine ⟨first :: before, after, rfl, ?_⟩
      simpa [or_left_comm] using hrepeated

namespace Parts

theorem exists_of_operatorFault? {toolIds seen : List String} {ops : List Operator}
    {error : BlueprintError} (h : operatorFault? toolIds seen ops = some error) :
    ∃ before op after, ops = before ++ op :: after ∧
      (op.name ∈ before.map (·.name) ++ seen ∧ error = .duplicateOperator op.name ∨
        op.name ∉ before.map (·.name) ++ seen ∧
          ∃ tool ∈ op.tools, tool ∉ toolIds ∧ error = .danglingTool op.name tool) := by
  induction ops generalizing seen with
  | nil => cases h
  | cons first ops ih =>
    rw [operatorFault?] at h
    split at h
    · next hseen =>
      obtain rfl := Option.some.inj h
      exact ⟨[], first, ops, rfl, .inl ⟨List.contains_iff_mem.mp hseen, rfl⟩⟩
    · next hnew =>
      split at h
      · next tool hfound =>
        obtain rfl := Option.some.inj h
        have hunknown : tool ∉ toolIds := by simpa using List.find?_some hfound
        exact ⟨[], first, ops, rfl, .inr ⟨mt List.contains_iff_mem.mpr hnew, tool,
          List.mem_of_find?_eq_some hfound, hunknown, rfl⟩⟩
      · obtain ⟨before, op, after, rfl, hfault⟩ := ih h
        refine ⟨first :: before, op, after, rfl, ?_⟩
        simpa [or_left_comm] using hfault

variable {parts : Parts}

theorem describes_of_operatorFault? {error : BlueprintError}
    (h : operatorFault? (parts.tools.map (·.id)) [] parts.operators = some error) :
    error.Describes parts := by
  obtain ⟨before, op, after, hoperators, hfault⟩ := exists_of_operatorFault? h
  rw [List.append_nil] at hfault
  obtain ⟨hbefore, rfl⟩ | ⟨hnew, tool, htool, hunknown, rfl⟩ := hfault
  · rw [BlueprintError.Describes, hoperators, List.map_append, List.map_cons]
    exact two_le_count_of_mem_before hbefore _
  · have hnone : before.find? (·.name == op.name) = none := by
      rw [List.find?_eq_none]
      intro other hother hname
      exact hnew (eq_of_beq hname ▸ List.mem_map_of_mem hother)
    refine ⟨⟨op, ?_, htool⟩, hunknown⟩
    rw [hoperators, List.find?_append, hnone, Option.none_or]
    exact List.find?_cons_of_pos (beq_self_eq_true op.name)

theorem describes_of_fault? {error : BlueprintError} (h : parts.fault? = some error) :
    error.Describes parts := by
  rw [fault?, ite_eq_iff] at h
  obtain ⟨hempty, herror⟩ | ⟨-, h⟩ := h
  · obtain rfl := Option.some.inj herror
    exact List.isEmpty_iff.mp hempty
  rw [Option.orElse_eq_some, Option.orElse_eq_some] at h
  obtain h | ⟨-, h | ⟨-, h⟩⟩ := h
  · obtain ⟨id, hid, rfl⟩ := Option.map_eq_some_iff.mp h
    obtain ⟨before, after, hids, hbefore⟩ := exists_of_firstRepeated? hid
    rw [BlueprintError.Describes, hids]
    exact two_le_count_of_mem_before (by simpa using hbefore) _
  · exact describes_of_operatorFault? h
  · obtain ⟨name, hname, rfl⟩ := Option.map_eq_some_iff.mp h
    obtain ⟨e, he, hend⟩ := List.mem_flatMap.mp (List.mem_of_find?_eq_some hname)
    refine ⟨⟨e, he, ?_⟩, by simpa using List.find?_some hname⟩
    simpa [eq_comm] using hend

end Parts

namespace Blueprint

/-- Of all contents, those become a blueprint that have an operator, distinct tool ids, distinct
operator names, and a target for every tool of an operator and every end of a wire; they become the
contents of the blueprint. All others are refused with an error that describes them. -/
theorem ofParts_exact (parts : Parts) :
    ((∃ blueprint, ofParts parts = .ok blueprint) ↔ parts.Sound) ∧
      (∀ blueprint, ofParts parts = .ok blueprint → blueprint.parts = parts) ∧
      ∀ error, ofParts parts = .error error → error.Describes parts := by
  refine ⟨⟨?_, fun h ↦ ⟨_, ofParts_of_sound h⟩⟩, fun _ h ↦ parts_of_ofParts h, fun error h ↦ ?_⟩
  · rintro ⟨blueprint, h⟩
    exact parts_of_ofParts h ▸ blueprint.parts_sound
  · unfold ofParts at h
    split at h
    · cases h
    · next hfault =>
      obtain rfl := Except.error.inj h
      exact Parts.describes_of_fault? hfault

/-- The first fault counts: two operators have one name, but the first of them lists an unknown tool.
-/
theorem twins_refused :
    let twin : Operator := ⟨"worker", .worker, "Work.", "answer", ["Read", "Write"]⟩
    let parts : Parts :=
      { id := "bp-0000", appName := "demo", task := "Find accounts", topology := .linear,
        operators := [twin, twin], edges := chain [twin, twin], tools := [⟨"Read", [], ""⟩],
        parentId := none, lineage := [] }
    ofParts parts = .error (.danglingTool "worker" "Write") ∧
      BlueprintError.Describes parts (.danglingTool "worker" "Write") := by
  intro twin parts
  have herror : ofParts parts = .error (.danglingTool "worker" "Write") := rfl
  exact ⟨herror, (ofParts_exact parts).2.2 _ herror⟩

end Blueprint

end WorkflowSearch
