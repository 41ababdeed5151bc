import WorkflowSearch.Config.Validity
import WorkflowSearch.Proofs.Synthesis.Patterns

namespace WorkflowSearch

variable {schema : Schema}

section Draft

variable {draft : Draft} {pattern : Template} {label relation : Option String}

theorem Draft.FilledFrom.relation_within (h : draft.FilledFrom schema pattern label relation) :
    ∀ name ∈ relation, name.toList <:+: draft.question.toList :=
  fun name hname ↦ (h.names name (mem_slotTexts hname label.toList)).within

theorem Draft.FilledFrom.labelText_within (h : draft.FilledFrom schema pattern label relation) :
    ∀ name ∈ label, (labelText name relation).toList <:+: draft.question.toList :=
  fun _ hname ↦
    (h.names _ (labelText_mem_slotTexts (Option.mem_toList.mpr hname) relation)).within

theorem Draft.FilledFrom.label_within (h : draft.FilledFrom schema pattern label relation) :
    ∀ name ∈ label, relation = none ∨ ¬ Template.relationSlot.toList <:+: name.toList →
      name.toList <:+: draft.question.toList := by
  intro name hname hplain
  have hkept : labelText name relation = name := by
    obtain rfl | hplain := hplain
    · exact String.ofList_toList
    · exact labelText_of_not_within hplain relation
  exact hkept ▸ h.labelText_within name hname

end Draft

/-- Every case that has an answer was filled with schema terms, which its sketch lists in order. The
relation stands in the question, and so does the label, where every relation slot that it has itself
is filled too. Only such a slot can keep a label from standing in the question as it is. -/
theorem synthesize_sketches {α σ : Type} [Scalar α] [RandomSource σ] {task : String}
    {config : DatasetConfig α} {source : σ} {dataset : Dataset α}
    (h : synthesize task schema config source = .ok dataset) :
    ∀ case ∈ dataset.cases, case.origin.hardNegative = false →
      (∃ pattern label relation, case.draft.FilledFrom schema pattern label relation) ∧
      ∀ pattern label relation, case.draft.FilledFrom schema pattern label relation →
        case.expected =
          case.intent.name ++ ": " ++ " ".intercalate (label.toList ++ relation.toList) ∧
        (∀ name ∈ relation, name ∈ schema.relations ∧ name.toList <:+: case.question.toList) ∧
        ∀ name ∈ label, name ∈ schema.entities ∧
          (labelText name relation).toList <:+: case.question.toList ∧
          (relation = none ∨ ¬ Template.relationSlot.toList <:+: name.toList →
            name.toList <:+: case.question.toList) := by
  intro case hcase hplain
  obtain hpositive | hnegative := draft_of_mem_cases h hcase
  · refine ⟨hpositive.rendered.exists_pattern, fun pattern label relation hfilled ↦ ?_⟩
    refine ⟨hfilled.expected.trans (expectedAnswer_eq case.intent label relation),
      fun name hname ↦ ⟨?_, hfilled.relation_within name hname⟩,
      fun name hname ↦ ⟨?_, hfilled.labelText_within name hname, hfilled.label_within name hname⟩⟩
    · exact (mem_of_mem_slotBindings hfilled.relation_mem name hname).2
    · exact (mem_of_mem_slotBindings hfilled.label_mem name hname).2
  · exact absurd (hnegative.hardNegative.symm.trans hplain) (by decide)

/-- The terms of a schema without braces stand in the questions as they are. -/
theorem threeCases_sketched :
    let schema : Schema := ⟨["Account"], ["OWNS"]⟩
    let config : DatasetConfig ℚ := { DatasetConfig.default with targetSize := 3, minSize := 3 }
    ∃ dataset, synthesize "Find accounts" schema config (ChaCha.ofSeed 1) = .ok dataset ∧
      (∃ case ∈ dataset.cases, case.origin.hardNegative = false) ∧
      ∀ case ∈ dataset.cases, case.origin.hardNegative = false →
        ∃ label relation : Option String, case.expected =
            case.intent.name ++ ": " ++ " ".intercalate (label.toList ++ relation.toList) ∧
          (∀ name ∈ label, name = "Account" ∧ name.toList <:+: case.question.toList) ∧
          ∀ name ∈ relation, name = "OWNS" ∧ name.toList <:+: case.question.toList := by
  intro schema config
  obtain ⟨dataset, hdataset, hhard, -⟩ := exists_threeCases
  obtain ⟨hlength, -, -, -, -, -, -, hcount, -⟩ := synthesize_integrity hdataset
  refine ⟨dataset, hdataset, ?_, fun case hcase hplain ↦ ?_⟩
  · by_contra! hall
    have hevery : dataset.cases.countP (·.origin.hardNegative) = dataset.cases.length :=
      List.countP_eq_length.mpr fun case hcase ↦ by simpa using hall case hcase
    rw [← hcount, hhard, hlength] at hevery
    exact absurd hevery (by decide)
  · obtain ⟨⟨pattern, label, relation, hfilled⟩, hsketch⟩ :=
      synthesize_sketches hdataset case hcase hplain
    obtain ⟨hexpected, hrelation, hlabel⟩ := hsketch pattern label relation hfilled
    refine ⟨label, relation, hexpected, fun name hname ↦ ?_, fun name hname ↦ ?_⟩
    · obtain ⟨hknown, -, hwithin⟩ := hlabel name hname
      obtain rfl := List.mem_singleton.mp hknown
      exact ⟨rfl, hwithin (.inr (by decide))⟩
    · obtain ⟨hknown, hwithin⟩ := hrelation name hname
      exact ⟨List.mem_singleton.mp hknown, hwithin⟩

/-- A label that is a slot gives way to the relation. -/
theorem slotLabel_replaced :
    let schema : Schema := ⟨["\x7brelation\x7d"], ["OWNS"]⟩
    let config : DatasetConfig ℚ := { DatasetConfig.default with targetSize := 3, minSize := 3 }
    config.validate = .ok () ∧
      ∃ dataset, synthesize "Find accounts" schema config (ChaCha.ofSeed 1) = .ok dataset ∧
        ∃ case ∈ dataset.cases, case.origin.hardNegative = false ∧
          (∃ pattern, case.draft.FilledFrom schema pattern (some "\x7brelation\x7d")
            (some "OWNS")) ∧
          case.expected = "query: \x7brelation\x7d OWNS" ∧
          ¬ "\x7brelation\x7d".toList <:+: case.question.toList := by
  intro schema config
  let draft : Draft :=
    { question := "Which OWNS records match a path over OWNS?"
      expected := "query: \x7brelation\x7d OWNS"
      intent := .query
      templateId := "query-filter"
      paraphrased := false
      hardNegative := false }
  have hfirst : (synthesize "Find accounts" schema config (ChaCha.ofSeed 1)).toOption.map
      (fun dataset ↦ dataset.cases.head?.map Case.draft) = some (some draft) := by
    decide +kernel
  obtain ⟨dataset, hdataset, hfirst⟩ := exists_eq_ok_of_map hfirst
  obtain ⟨case, hcase, hdraft⟩ := Option.map_eq_some_iff.mp hfirst
  refine ⟨eq_ok_of_isOk (by decide +kernel), dataset, hdataset, case, List.mem_of_head? hcase, ?_⟩
  have hquestion : case.question = draft.question := congrArg Draft.question hdraft
  refine ⟨congrArg Draft.hardNegative hdraft, ?_, congrArg Draft.expected hdraft, ?_⟩
  · refine ⟨⟨"query-filter", "Which \x7blabel\x7d records match a path over \x7brelation\x7d?"⟩, ?_⟩
    rw [hdraft]
    exact
      { pattern_mem := List.mem_flatMap_of_mem (by decide) List.mem_cons_self
        label_mem := by decide
        relation_mem := by decide
        templateId := rfl
        expected := by decide
        question := by decide +kernel }
  · rw [hquestion]
    decide

end WorkflowSearch
