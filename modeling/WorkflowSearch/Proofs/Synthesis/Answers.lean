import WorkflowSearch.Evaluation.Evaluator
import WorkflowSearch.Proofs.Judge.Lexical
import WorkflowSearch.Proofs.Service.Simulated
import WorkflowSearch.Proofs.Synthesis.Patterns
import WorkflowSearch.Proofs.Text.Blank

namespace WorkflowSearch

open Text (Names IsWord isBlank_eq_false)

variable {schema : Schema}

theorem Draft.Rendered.exists_terms {draft : Draft} (h : draft.Rendered schema)
    (hschema : ∀ name ∈ schema.entities ++ schema.relations, IsWord name) :
    ∃ terms : List String, terms.length < 3 ∧
      draft.expected = draft.intent.name ++ ": " ++ " ".intercalate terms ∧
      ∀ term ∈ terms, term ∈ schema.entities ++ schema.relations ∧ Names draft.question term := by
  obtain ⟨pattern, label, relation, hfilled⟩ := h.exists_pattern
  have hlabel := mem_of_mem_slotBindings hfilled.label_mem
  have hrelation := mem_of_mem_slotBindings hfilled.relation_mem
  refine ⟨label.toList ++ relation.toList, ?_, ?_, fun term hterm ↦ ?_⟩
  · cases label <;> cases relation <;> simp
  · rw [hfilled.expected, expectedAnswer_eq]
  obtain hterm | hterm := List.mem_append.mp hterm
  · have hknown := (hlabel term (Option.mem_toList.mp hterm)).2
    have hkept : labelText term relation = term := labelText_of_not_within
      (slot_not_within (by decide) (hschema term (List.mem_append_left _ hknown))) relation
    have hnames := hfilled.names _ (labelText_mem_slotTexts hterm relation)
    exact ⟨List.mem_append_left _ hknown, hkept ▸ hnames⟩
  · have hterm := Option.mem_toList.mp hterm
    exact ⟨List.mem_append_right _ (hrelation term hterm).2,
      hfilled.names term (mem_slotTexts hterm label.toList)⟩

theorem Intent.name_start (intent : Intent) :
    ∃ c rest, intent.name.toList = c :: rest ∧ Text.isBlank c = false ∧ c.toLower ≠ 'u' := by
  cases intent with
  | query =>
    exact ⟨'q', "uery".toList, by decide, isBlank_eq_false (by decide) (by decide), by decide⟩
  | analytics =>
    exact ⟨'a', "nalytics".toList, by decide, isBlank_eq_false (by decide) (by decide), by decide⟩
  | modeling =>
    exact ⟨'m', "odeling".toList, by decide, isBlank_eq_false (by decide) (by decide), by decide⟩
  | ingest =>
    exact ⟨'i', "mport".toList, by decide, isBlank_eq_false (by decide) (by decide), by decide⟩
  | qa => exact ⟨'q', "a".toList, by decide, isBlank_eq_false (by decide) (by decide), by decide⟩

theorem not_unknown (intent : Intent) (sketch : String) :
    Text.lowerAscii (Text.trim (intent.name ++ sketch)) ≠ "unknown" := by
  obtain ⟨c, name, hname, hblank, hsmall⟩ := intent.name_start
  obtain ⟨rest, hrest⟩ := Text.exists_trimChars_cons hblank (name ++ sketch.toList)
  intro hunknown
  have hchars := congrArg String.toList hunknown
  rw [Text.lowerAscii, Text.trim, String.toList_ofList, String.toList_ofList, String.toList_append,
    hname, List.cons_append, hrest, List.map_cons] at hchars
  have hword : "unknown".toList = 'u' :: "nknown".toList := by decide
  rw [hword] at hchars
  exact hsmall (List.cons.inj hchars).1

variable {α σ : Type} [Scalar α] [RandomSource σ]

section Scores

variable [JudgeScalar α] {blueprint : Blueprint} {case : Case}

theorem scores_of_rendered (hdraft : case.draft.Rendered schema)
    (hplain : case.origin.hardNegative = false)
    (hschema : ∀ name ∈ schema.entities ++ schema.relations, IsWord name)
    (hserves : blueprint.Serves case.intent) (history : History) :
    let request := JudgeRequest.ofOutput case history
      (simulatedOutput schema blueprint case : CaseOutput α)
    (Judge.rule : Judge α).Scores request 1 ∧ (Judge.heuristic : Judge α).Scores request 1 := by
  intro request
  obtain ⟨terms, hfew, hexpected, hterms⟩ := hdraft.exists_terms hschema
  have hexpected : request.expected =
      case.intent.name ++ (": " ++ " ".intercalate terms) := by
    rw [← String.append_assoc]
    exact hexpected
  have hdeclines : request.expectsAbstention = false := by
    have hhard : request.hardNegative = false := hplain
    rw [JudgeRequest.expectsAbstention, hhard, hexpected, Bool.false_or, beq_eq_false_iff_ne]
    exact not_unknown case.intent _
  have htokens : Text.tokens request.expected = case.intent.name :: terms.map Text.lowercase := by
    rw [hexpected, ← String.append_assoc]
    exact tokens_name_append case.intent fun term hterm ↦ hschema term (hterms term hterm).1
  have hsome : Text.tokens request.expected ≠ [] := by simp [htokens]
  have hsubset : Text.tokens request.expected ⊆ Text.tokens request.produced := by
    obtain ⟨hname, hfound⟩ := mem_tokens_simulatedAnswer hschema hplain hserves
    rw [htokens, List.cons_subset]
    refine ⟨hname, fun token htoken ↦ ?_⟩
    obtain ⟨term, hterm, rfl⟩ := List.mem_map.mp htoken
    obtain ⟨hknown, hnames⟩ := hterms term hterm
    exact hfound term (mem_questionTerms.mpr ⟨hknown, hnames.mem_pieces (hschema term hknown)⟩)
  refine ⟨⟨_, rfl, ?_⟩, ⟨_, rfl, ?_⟩⟩
  · rw [JudgeRequest.ruleScore_of_subset hdeclines hsome hsubset]
    exact JudgeScalar.clamp_one
  · have hlength : (Text.tokens request.expected).length = terms.length + 1 := by simp [htokens]
    rw [JudgeRequest.overlapScore_of_subset hdeclines hsome hsubset, hlength]
    exact JudgeScalar.clamp_share_self _ (Nat.succ_lt_succ hfew) (Nat.succ_ne_zero _)

theorem scores_of_hardNegative (schema : Schema) (hhard : case.origin.hardNegative = true)
    (hverifies : blueprint.hasVerifier = true) (history : History) :
    let request := JudgeRequest.ofOutput case history
      (simulatedOutput schema blueprint case : CaseOutput α)
    (Judge.rule : Judge α).Scores request 1 ∧ (Judge.heuristic : Judge α).Scores request 0.9 := by
  intro request
  have hproduced : request.produced =
      "UNKNOWN: the schema has no such edge, so the answer cannot be inferred" :=
    simulatedAnswer_of_hasVerifier schema hhard hverifies
  have hdeclines : request.expectsAbstention = true := by
    have hhard : request.hardNegative = true := hhard
    rw [JudgeRequest.expectsAbstention, hhard, Bool.true_or]
  have hsome : Text.tokens request.produced ≠ [] := by
    rw [hproduced]
    decide
  have habstains : Text.abstains request.produced = true := by
    rw [hproduced]
    decide
  refine ⟨⟨_, rfl, ?_⟩, ⟨_, rfl, ?_⟩⟩
  · rw [JudgeRequest.ruleScore_of_abstains hdeclines hsome habstains]
    exact JudgeScalar.clamp_one
  · rw [JudgeRequest.overlapScore_of_abstains hdeclines hsome habstains]
    exact JudgeScalar.clamp_declined

/-- On every dataset that is synthesized from a schema of plain names, the simulated service over the
same schema answers as the lexical judges want. A question of an intent that some bound tool serves
gets full scores; and where an operator verifies, a hard negative is declined, which gets the scores
for that. -/
theorem simulated_answers_accepted {task : String} {config : DatasetConfig α} {source : σ}
    {dataset : Dataset α}
    (hschema : ∀ name ∈ schema.entities ++ schema.relations, IsWord name)
    (h : synthesize task schema config source = .ok dataset) (catalog : List Tool)
    (history asked : History) (blueprint : Blueprint) :
    ∀ case ∈ dataset.cases, ∃ output : CaseOutput α,
      ((Service.simulated schema catalog).execute history blueprint case).result = .ok output ∧
      let request := JudgeRequest.ofOutput case asked output
      (case.origin.hardNegative = false → blueprint.Serves case.intent →
        (Judge.rule : Judge α).Scores request 1 ∧ (Judge.heuristic : Judge α).Scores request 1) ∧
      (case.origin.hardNegative = true → blueprint.hasVerifier = true →
        (Judge.rule : Judge α).Scores request 1 ∧
          (Judge.heuristic : Judge α).Scores request 0.9) := by
  intro case hcase
  refine ⟨simulatedOutput schema blueprint case, rfl, fun hplain hserves ↦ ?_,
    fun hhard hverifies ↦ scores_of_hardNegative schema hhard hverifies asked⟩
  obtain hpositive | hnegative := draft_of_mem_cases h hcase
  · exact scores_of_rendered hpositive.rendered hplain hschema hserves asked
  · exact absurd (hnegative.hardNegative.symm.trans hplain) (by decide)

end Scores

/-- A workflow with a reviewer, on two questions and a hard negative. -/
theorem threeCases_accepted :
    let schema : Schema := ⟨["Account"], ["OWNS"]⟩
    let config : DatasetConfig ℚ := { DatasetConfig.default with targetSize := 3, minSize := 3 }
    let blueprint : Blueprint := ⟨Blueprint.initialParts "workflow" "app" "Find accounts"
      simulatedCatalog .plannerWorkerReviewer, by decide⟩
    ∃ dataset, synthesize "Find accounts" schema config (ChaCha.ofSeed 1) = .ok dataset ∧
      dataset.cases.countP (·.origin.hardNegative) = 1 ∧ dataset.cases.length = 3 ∧
      ∀ case ∈ dataset.cases, ∃ output : CaseOutput ℚ,
        ((Service.simulated schema simulatedCatalog).execute [] blueprint case).result =
            .ok output ∧
          let request := JudgeRequest.ofOutput case [] output
          (Judge.rule : Judge ℚ).Scores request 1 ∧
            (Judge.heuristic : Judge ℚ).Scores request
              (if case.origin.hardNegative then 0.9 else 1) := by
  intro schema config blueprint
  obtain ⟨dataset, hdataset, hreport, -⟩ := exists_threeCases
  obtain ⟨drafts, pool, hlength, -, -, hdrafts, -, hcounts⟩ :=
    exists_drafts_of_synthesize hdataset
  have hschema : ∀ name ∈ schema.entities ++ schema.relations, IsWord name := by
    have hplain : ∀ name ∈ schema.entities ++ schema.relations,
        name ≠ "" ∧ name.toList.all Text.isWordChar = true := by
      decide
    exact fun name hname ↦ ⟨(hplain name hname).1, List.all_eq_true.mp (hplain name hname).2⟩
  have hintents : inferIntents "Find accounts" schema = [.query] := by decide
  have hserves : blueprint.Serves .query := by
    unfold Blueprint.Serves
    decide
  have hverifies : blueprint.hasVerifier = true := by decide
  refine ⟨dataset, hdataset, ?_, ?_, fun case hcase ↦ ?_⟩
  · rw [← hreport, hcounts]
    rfl
  · rw [← List.length_map Case.draft, hdrafts.length_eq, hlength]
  have hintent : case.intent = .query := by
    have hmem : case.draft.intent ∈ inferIntents "Find accounts" schema := by
      obtain hpositive | hnegative := draft_of_mem_cases hdataset hcase
      · exact hpositive.intent_mem
      · exact hnegative.intent_mem
    rwa [hintents, List.mem_singleton] at hmem
  obtain ⟨output, houtput, hpositive, hnegative⟩ := simulated_answers_accepted hschema hdataset
    simulatedCatalog [] [] blueprint case hcase
  refine ⟨output, houtput, ?_⟩
  cases hkind : case.origin.hardNegative with
  | false => exact hpositive hkind (hintent ▸ hserves)
  | true => exact hnegative hkind hverifies

end WorkflowSearch
