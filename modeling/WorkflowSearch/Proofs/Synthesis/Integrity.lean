import WorkflowSearch.Proofs.Scalar.Exact
import WorkflowSearch.Proofs.Synthesis.Clip
import WorkflowSearch.Proofs.Synthesis.Drafts
import WorkflowSearch.Proofs.Synthesis.Splits
import WorkflowSearch.Proofs.Tally
import WorkflowSearch.Proofs.Text.Numbered
import WorkflowSearch.Random.ChaCha

namespace WorkflowSearch

variable {α σ : Type}

theorem Intent.mem_all (intent : Intent) : intent ∈ Intent.all := by
  cases intent <;> decide

theorem Split.mem_all (split : Split) : split ∈ Split.all := by
  cases split <;> decide

def Case.draft (case : Case) : Draft where
  question := case.question
  expected := case.expected
  intent := case.intent
  templateId := case.origin.templateId
  paraphrased := case.origin.paraphrased
  hardNegative := case.origin.hardNegative

variable [Scalar α] [RandomSource σ]

omit [Scalar α] in
theorem draft_assignSplits_perm (drafts : List Draft) (sizes : PerSplit ℕ) (source : σ) :
    ((assignSplits drafts sizes source).1.map Case.draft).Perm drafts := by
  have hview (case : Case) (split : Split) : Case.draft { case with split } = case.draft := rfl
  refine (map_assignSplits_perm hview drafts sizes source).trans (.of_eq ?_)
  exact List.zipIdx_map_fst 0 _

/-- A dataset has the cases of so many sound drafts, each once and numbered, and the report is about
them. -/
theorem exists_drafts_of_synthesize {task : String} {schema : Schema} {config : DatasetConfig α}
    {source : σ} {dataset : Dataset α} (h : synthesize task schema config source = .ok dataset) :
    let intents := inferIntents task schema
    ∃ (drafts : List Draft) (pool : DraftPool), drafts.length = config.targetSize ∧
      (drafts.map Draft.key).Nodup ∧
      (∀ draft ∈ drafts, draft.Positive schema intents ∨ draft.Negative schema intents) ∧
      (dataset.cases.map Case.draft).Perm drafts ∧
      (dataset.cases.map (·.id)).Perm ((List.range drafts.length).map (Text.numbered "case-")) ∧
      dataset.report = reportCases schema config.targetSize intents pool dataset.cases := by
  intro intents
  obtain ⟨plans, negatives, positives, sizes, hplans, hnegatives, hpositives, hsizes, henough,
    rfl⟩ := exists_of_synthesize h
  obtain ⟨hgrows, hfew, hgrows'⟩ := phases_grow hplans hnegatives hpositives
  have hclipped := clipPreservingCoverage_sublist positives.1.drafts
    (config.targetSize - negatives.1.drafts.length)
  have hclippedLength := (length_clipPreservingCoverage positives.1.drafts
    (config.targetSize - negatives.1.drafts.length)).trans_le (Nat.min_le_left ..)
  generalize clipPreservingCoverage positives.1.drafts
    (config.targetSize - negatives.1.drafts.length) = kept at *
  refine ⟨kept ++ negatives.1.drafts, positives.1, ?_, ?_, ?_, ?_, ?_, rfl⟩
  · refine Nat.le_antisymm ?_ henough
    have htarget := hardNegativeTarget_le config
    rw [List.length_append]
    omega
  · have hdistinct := (DraftPool.distinct_empty.grows hgrows).nextPhase.grows hgrows'
    have hsublist : (negatives.1.drafts ++ kept).Sublist
        (negatives.1.drafts ++ positives.1.drafts) := hclipped.append_left _
    refine (hdistinct.nodup.sublist (hsublist.map Draft.key)).perm ?_
    exact List.perm_append_comm.map Draft.key
  · rw [List.forall_mem_append]
    constructor
    · intro draft hdraft
      have hdrawn := hgrows'.forall_mem (by simp) draft (hclipped.subset hdraft)
      exact .inl hdrawn.toPositive
    · intro draft hdraft
      exact .inr (hgrows.forall_mem (by simp) draft hdraft)
  · exact draft_assignSplits_perm _ sizes positives.2
  · have hview (case : Case) (split : Split) : Case.id { case with split } = case.id := rfl
    refine (map_assignSplits_perm hview _ sizes positives.2).trans (.of_eq ?_)
    rw [List.range_eq_range', ← List.zipIdx_map_snd, List.map_map]
    rfl

theorem draft_of_mem_cases {task : String} {schema : Schema} {config : DatasetConfig α} {source : σ}
    {dataset : Dataset α} (h : synthesize task schema config source = .ok dataset) {case : Case}
    (hcase : case ∈ dataset.cases) :
    case.draft.Positive schema (inferIntents task schema) ∨
      case.draft.Negative schema (inferIntents task schema) := by
  obtain ⟨drafts, -, -, -, hsound, hdrafts, -⟩ := exists_drafts_of_synthesize h
  exact hsound case.draft (hdrafts.subset (List.mem_map_of_mem hcase))

/-- A synthesized dataset has as many cases as are wanted, numbered, each number once. Their
questions differ, so none is in two splits. Every case has an intent of the task; a hard negative
cannot be answered from the schema, and any other case asks what a template of its intent makes of
schema terms. The counts of the report are those of the cases. -/
theorem synthesize_integrity {task : String} {schema : Schema} {config : DatasetConfig α}
    {source : σ} {dataset : Dataset α} (h : synthesize task schema config source = .ok dataset) :
    let cases := dataset.cases
    let report := dataset.report
    cases.length = config.targetSize ∧
      (cases.map (·.id)).Perm
        ((List.range config.targetSize).map fun n ↦ "case-" ++ Text.padded 4 n) ∧
      (cases.map (·.id)).Nodup ∧
      (cases.map (normalizedQuestion ·.question)).Nodup ∧
      (∀ a ∈ cases, ∀ b ∈ cases,
        normalizedQuestion a.question = normalizedQuestion b.question → a.split = b.split) ∧
      (∀ case ∈ cases, case.intent ∈ inferIntents task schema ∧
        if case.origin.hardNegative then case.draft.Unanswerable schema
        else case.draft.Rendered schema) ∧
      report.finalSize = cases.length ∧
      report.hardNegativeCount = cases.countP (·.origin.hardNegative) ∧
      report.paraphraseCount = cases.countP (·.origin.paraphrased) ∧
      (report.intentCoverage.map Prod.fst).Nodup ∧
      (∀ intent n, (intent, n) ∈ report.intentCoverage ↔
        n = cases.countP (·.intent = intent) ∧ n ≠ 0) ∧
      (report.splitSizes.map Prod.fst).Nodup ∧
      ∀ split n, (split, n) ∈ report.splitSizes ↔
        n = cases.countP (·.split = split) ∧ n ≠ 0 := by
  intro cases report
  obtain ⟨drafts, pool, hlength, hkeys, hsound, hdrafts, hids, hreport⟩ :=
    exists_drafts_of_synthesize h
  have hids : (cases.map (·.id)).Perm
      ((List.range config.targetSize).map fun n ↦ "case-" ++ Text.padded 4 n) := hlength ▸ hids
  have hquestions : (cases.map (normalizedQuestion ·.question)).Nodup := by
    have hperm := (hdrafts.map Draft.key).nodup_iff.mpr hkeys
    rwa [List.map_map] at hperm
  have hreport : report = reportCases schema config.targetSize (inferIntents task schema) pool
      cases := hreport
  refine ⟨?_, hids, ?_, hquestions, ?_, ?_, ?_, ?_, ?_, ?_, ?_, ?_, ?_⟩
  · rw [← List.length_map Case.draft, hdrafts.length_eq, hlength]
  · refine hids.nodup_iff.mpr (List.nodup_range.map ?_)
    exact Text.numbered_injective "case-"
  · intro a ha b hb hsame
    rw [List.inj_on_of_nodup_map hquestions ha hb hsame]
  · intro case hcase
    have hmem := hdrafts.subset (List.mem_map_of_mem hcase)
    obtain hpositive | hnegative := hsound case.draft hmem
    · have hplain : case.origin.hardNegative = false := hpositive.hardNegative
      rw [hplain]
      exact ⟨hpositive.intent_mem, hpositive.rendered⟩
    · have hhard : case.origin.hardNegative = true := hnegative.hardNegative
      rw [hhard]
      exact ⟨hnegative.intent_mem, hnegative.unanswerable⟩
  · rw [hreport]
    rfl
  · rw [hreport]
    rfl
  · rw [hreport]
    rfl
  · rw [hreport]
    exact nodup_keys_tally (by decide) _
  · rw [hreport]
    exact mem_tally_map Intent.mem_all (·.intent) cases
  · rw [hreport]
    exact nodup_keys_tally (by decide) _
  · rw [hreport]
    exact mem_tally_map Split.mem_all (·.split) cases

theorem exists_threeCases :
    let config : DatasetConfig ℚ := { DatasetConfig.default with targetSize := 3, minSize := 3 }
    ∃ dataset, synthesize "Find accounts" ⟨["Account"], ["OWNS"]⟩ config (ChaCha.ofSeed 1) =
        .ok dataset ∧
      dataset.report.hardNegativeCount = 1 ∧ dataset.report.paraphraseCount = 1 := by
  intro config
  have hcounts : (synthesize "Find accounts" ⟨["Account"], ["OWNS"]⟩ config
      (ChaCha.ofSeed 1)).toOption.map
        (fun dataset ↦ (dataset.report.hardNegativeCount, dataset.report.paraphraseCount)) =
      some (1, 1) := by
    decide +kernel
  obtain ⟨dataset, hdataset, hcounts⟩ := exists_eq_ok_of_map hcounts
  obtain ⟨hhard, hagain⟩ := Prod.mk.inj hcounts
  exact ⟨dataset, hdataset, hhard, hagain⟩

/-- A question, a paraphrase and a hard negative. -/
theorem threeCases_integrity :
    let schema : Schema := ⟨["Account"], ["OWNS"]⟩
    let config : DatasetConfig ℚ := { DatasetConfig.default with targetSize := 3, minSize := 3 }
    ∃ dataset, synthesize "Find accounts" schema config (ChaCha.ofSeed 1) = .ok dataset ∧
      dataset.cases.countP (·.origin.hardNegative) = 1 ∧
      dataset.cases.countP (·.origin.paraphrased) = 1 ∧
      dataset.cases.length = 3 ∧
      (dataset.cases.map (·.id)).Perm ["case-0000", "case-0001", "case-0002"] ∧
      (dataset.cases.map (normalizedQuestion ·.question)).Nodup := by
  intro schema config
  obtain ⟨dataset, hdataset, hhard, hagain⟩ := exists_threeCases
  obtain ⟨hlength, hids, -, hquestions, -, -, -, hnegatives, hparaphrases, -⟩ :=
    synthesize_integrity hdataset
  refine ⟨dataset, hdataset, hnegatives.symm.trans hhard, hparaphrases.symm.trans hagain, hlength,
    ?_, hquestions⟩
  have hnames : ((List.range 3).map fun n ↦ "case-" ++ Text.padded 4 n) =
      ["case-0000", "case-0001", "case-0002"] := by decide
  exact hnames ▸ hids

end WorkflowSearch
