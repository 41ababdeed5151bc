import WorkflowSearch.Proofs.Blueprint.Soundness
import WorkflowSearch.Proofs.Lists
import WorkflowSearch.Proofs.Text.Names
import WorkflowSearch.Service.Simulated

namespace WorkflowSearch

def Blueprint.Serves (blueprint : Blueprint) (intent : Intent) : Prop :=
  ∃ op ∈ blueprint.parts.operators, ∃ tool ∈ blueprint.parts.tools, tool.id ∈ op.tools ∧
    ∃ tag ∈ tool.tags, tag ∈ intent.capabilityTags

theorem Blueprint.exists_servingTool {blueprint : Blueprint} {intent : Intent}
    (h : blueprint.Serves intent) : ∃ tool, blueprint.servingTool? intent = some tool := by
  obtain ⟨op, hop, tool, htool, hlisted, tag, htag, hcapable⟩ := h
  have hbound : tool.id ∈ blueprint.parts.operators.flatMap (·.tools) :=
    List.mem_flatMap.mpr ⟨op, hop, hlisted⟩
  have hfind : blueprint.parts.tools.find? (·.id == tool.id) = some tool :=
    find?_key_eq_some blueprint.parts_sound.tools_nodup htool
  rw [← Option.isSome_iff_exists, servingTool?, Option.isSome_map, List.find?_isSome]
  refine ⟨tool, List.mem_filterMap.mpr ⟨tool.id, hbound, hfind⟩, ?_⟩
  rw [List.any_eq_true]
  exact ⟨tag, htag, List.contains_iff_mem.mpr hcapable⟩

theorem mem_questionTerms {schema : Schema} {question term : String} :
    term ∈ questionTerms schema question ↔ term ∈ schema.entities ++ schema.relations ∧
      term.toList ∈ Text.pieces (!Text.isWordChar ·) question.toList := by
  simp only [questionTerms, List.mem_filter, List.contains_iff_mem, List.mem_map]
  refine and_congr_right fun _ ↦ ⟨?_, fun h ↦ ⟨_, h, String.ofList_toList⟩⟩
  rintro ⟨word, hword, rfl⟩
  rwa [String.toList_ofList]

theorem Intent.tokens_name (intent : Intent) : Text.tokens intent.name = [intent.name] := by
  cases intent <;> rfl

theorem tokens_name_append (intent : Intent) {terms : List String}
    (hterms : ∀ term ∈ terms, Text.IsWord term) :
    Text.tokens (intent.name ++ ": " ++ " ".intercalate terms) =
      intent.name :: terms.map Text.lowercase := by
  rw [Text.tokens_append (by decide) (by decide), intent.tokens_name,
    Text.tokens_intercalate hterms, List.singleton_append]

section Answer

variable {schema : Schema} {blueprint : Blueprint} {case : Case}

theorem mem_tokens_simulatedAnswer
    (hschema : ∀ name ∈ schema.entities ++ schema.relations, Text.IsWord name)
    (hplain : case.origin.hardNegative = false) (hserves : blueprint.Serves case.intent) :
    case.intent.name ∈ Text.tokens (simulatedAnswer schema blueprint case) ∧
      ∀ term ∈ questionTerms schema case.question,
        Text.lowercase term ∈ Text.tokens (simulatedAnswer schema blueprint case) := by
  obtain ⟨tool, htool⟩ := Blueprint.exists_servingTool hserves
  let terms := questionTerms schema case.question
  have hterms : ∀ term ∈ terms, Text.IsWord term := fun term hterm ↦
    hschema term (mem_questionTerms.mp hterm).1
  have hevidence : " (evidence from " = " " ++ "(evidence from " := by decide
  have hanswer : simulatedAnswer schema blueprint case =
      case.intent.name ++ ": " ++ " ".intercalate terms ++ " " ++
        ("(evidence from " ++ tool ++ ")") := by
    simp only [simulatedAnswer, hplain, htool, hevidence, Bool.false_eq_true, if_false,
      String.append_assoc, terms]
  rw [hanswer, Text.tokens_append_space, tokens_name_append case.intent hterms]
  refine ⟨List.mem_append_left _ List.mem_cons_self, fun term hterm ↦ ?_⟩
  exact List.mem_append_left _ (List.mem_cons_of_mem _ (List.mem_map_of_mem hterm))

theorem simulatedAnswer_of_hasVerifier (schema : Schema) (hhard : case.origin.hardNegative = true)
    (h : blueprint.hasVerifier = true) :
    simulatedAnswer schema blueprint case =
      "UNKNOWN: the schema has no such edge, so the answer cannot be inferred" := by
  simp [simulatedAnswer, Blueprint.declines, hhard, h]

end Answer

end WorkflowSearch
