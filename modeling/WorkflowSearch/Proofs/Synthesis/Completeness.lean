import Mathlib.Data.Finset.Card
import Mathlib.Data.Rat.Floor
import WorkflowSearch.Proofs.Scalar.Exact
import WorkflowSearch.Proofs.Synthesis.Clip
import WorkflowSearch.Proofs.Synthesis.Drafts
import WorkflowSearch.Proofs.Synthesis.Splits
import WorkflowSearch.Random.ChaCha

namespace WorkflowSearch

variable {α σ : Type}

/-- The questions that the usable templates of a task make of the schema terms they need, up to case
and white space. -/
def plainQuestions (task : String) (schema : Schema) : Finset String :=
  ((inferIntents task schema).flatMap fun intent ↦
    (intent.usable schema).flatMap fun template ↦
      (slotBindings template.needsLabel schema.entities).flatMap fun label ↦
        (slotBindings template.needsRelation schema.relations).map fun relation ↦
          normalizedQuestion (template.render label relation)).toFinset

theorem mem_plainQuestions {task : String} {schema : Schema} {key : String} :
    key ∈ plainQuestions task schema ↔ ∃ intent ∈ inferIntents task schema,
      ∃ template ∈ intent.usable schema,
        ∃ label ∈ slotBindings template.needsLabel schema.entities,
          ∃ relation ∈ slotBindings template.needsRelation schema.relations,
            normalizedQuestion (template.render label relation) = key := by
  simp only [plainQuestions, List.mem_toFinset, List.mem_flatMap, List.mem_map]

theorem Draft.Drawn.key_mem_plainQuestions {task : String} {schema : Schema} {draft : Draft}
    (h : draft.Drawn schema (inferIntents task schema) false) :
    draft.key ∈ plainQuestions task schema := by
  obtain ⟨template, htemplate, label, hlabel, relation, hrelation, -, -, hquestion⟩ := h.rendered
  have hplain : draft.paraphrased ≠ true := fun hparaphrased ↦ nomatch h.wanted hparaphrased
  rw [if_neg hplain] at hquestion
  have hrenderable : template.isRenderable (!schema.entities.isEmpty)
      (!schema.relations.isEmpty) = true := by
    simp only [Template.isRenderable, Bool.and_eq_true, Bool.or_eq_true, Bool.not_eq_true']
    exact ⟨isEmpty_or_of_mem_slotBindings hlabel, isEmpty_or_of_mem_slotBindings hrelation⟩
  refine mem_plainQuestions.mpr ⟨draft.intent, h.intent_mem, template,
    List.mem_filter.mpr ⟨htemplate, hrenderable⟩, label, hlabel, relation, hrelation, ?_⟩
  rw [Draft.key, hquestion]

namespace DraftPool

theorem sweep_complete (target : ℕ) (drafts : List Draft) (pool : DraftPool) :
    target ≤ (pool.sweep target drafts).drafts.length ∨
      ∀ draft ∈ drafts, draft.key ∈ (pool.sweep target drafts).seen := by
  induction drafts generalizing pool with
  | nil => exact .inr (by simp)
  | cons draft rest ih =>
    rw [sweep]
    split
    · next hreached => exact .inl hreached
    · refine (ih (pool.add draft)).imp_right fun hrest ↦ List.forall_mem_cons.mpr ⟨?_, hrest⟩
      have hgrows : Grows (fun _ ↦ True) (pool.add draft) ((pool.add draft).sweep target rest) :=
        grows_sweep target (fun _ _ ↦ trivial) _
      exact hgrows.mem_seen (mem_seen_add.mpr (.inl rfl))

end DraftPool

variable [RandomSource σ]

/-- The positive phase reaches its target, or all plain questions have been seen after it. -/
theorem synthesizePositives_complete {task : String} {schema : Schema} {plans : List IntentPlan}
    (hplans : intentPlans schema (inferIntents task schema) = .ok plans) (paraphrase : Bool)
    (target : ℕ) (pool : DraftPool) (source : σ) :
    let drafted := (synthesizePositives schema paraphrase plans target pool source).1
    target ≤ drafted.drafts.length ∨ ∀ key ∈ plainQuestions task schema, key ∈ drafted.seen := by
  obtain ⟨rfl, -⟩ := intentPlans_eq hplans
  rw [synthesizePositives_fst]
  refine (DraftPool.sweep_complete target _ _).imp_right fun hseen key hkey ↦ ?_
  obtain ⟨intent, hintent, template, htemplate, label, hlabel, relation, hrelation, rfl⟩ :=
    mem_plainQuestions.mp hkey
  refine hseen (template.draft intent label relation) (List.mem_flatMap.mpr ?_)
  refine ⟨⟨intent, intent.usable schema⟩, List.mem_map_of_mem hintent, List.mem_flatMap.mpr ?_⟩
  refine ⟨template, htemplate, List.mem_flatMap.mpr ⟨label, hlabel, ?_⟩⟩
  exact List.mem_map_of_mem hrelation

section Outcome

variable [Scalar α] {task : String} {schema : Schema} {config : DatasetConfig α}

theorem splitSizes_failed {size : ℕ} {e : SynthesisError}
    (h : splitSizes size config = .error (.failed e)) :
    e = .splitUnsatisfiable size config.minPerSplit := by
  unfold splitSizes at h
  dsimp only at h
  split at h
  · exact (SynthesisStop.failed.inj (Except.error.inj h)).symm
  · split at h
    · cases h
    · split at h
      · cases h
      · exact (SynthesisStop.failed.inj (Except.error.inj h)).symm

theorem intentPlans_of_usable {intents : List Intent}
    (h : ∀ intent ∈ intents, intent.usable schema ≠ []) :
    ∃ plans, intentPlans schema intents = .ok plans := by
  cases hplans : intentPlans schema intents with
  | ok plans => exact ⟨plans, rfl⟩
  | error e =>
    obtain ⟨intent, hintent, herror⟩ := exists_of_mapM_error hplans
    rw [if_neg (by simpa [Intent.usable] using h intent hintent)] at herror
    cases herror

theorem intentPlans_error {intents : List Intent} {e : SynthesisError}
    (h : intentPlans schema intents = .error e) : ∃ intent, e = .insufficientCoverage intent := by
  obtain ⟨intent, -, herror⟩ := exists_of_mapM_error h
  dsimp only at herror
  split at herror
  · exact ⟨intent, (Except.error.inj herror).symm⟩
  · cases herror

theorem synthesize_eq {plans : List IntentPlan}
    (hschema : ¬ (schema.entities.isEmpty ∧ schema.relations.isEmpty))
    (hplans : intentPlans schema (inferIntents task schema) = .ok plans)
    (config : DatasetConfig α) (source : σ) :
    ∃ negatives positives,
      synthesizeNegatives schema (inferIntents task schema) (hardNegativeTarget config) source =
        negatives ∧
      synthesizePositives schema config.paraphrase plans
        (config.targetSize - negatives.1.drafts.length) negatives.1 negatives.2 = positives ∧
      let drafts := clipPreservingCoverage positives.1.drafts
        (config.targetSize - negatives.1.drafts.length) ++ negatives.1.drafts
      synthesize task schema config source = (splitSizes drafts.length config).bind fun sizes ↦
        if drafts.length < config.targetSize then
          .error (.failed (.insufficientCases config.targetSize drafts.length))
        else
          let cases := (assignSplits drafts sizes positives.2).1
          .ok ⟨cases, reportCases schema config.targetSize (inferIntents task schema) positives.1
            cases⟩ := by
  refine ⟨_, _, rfl, rfl, ?_⟩
  unfold synthesize
  rw [if_neg hschema]
  simp only [hplans]
  rfl

theorem le_length_kept {source : σ} {plans : List IntentPlan}
    {negatives positives : DraftPool × σ}
    (hplans : intentPlans schema (inferIntents task schema) = .ok plans)
    (hnegatives : synthesizeNegatives schema (inferIntents task schema) (hardNegativeTarget config)
      source = negatives)
    (hpositives : synthesizePositives schema config.paraphrase plans
      (config.targetSize - negatives.1.drafts.length) negatives.1 negatives.2 = positives) :
    let kept := clipPreservingCoverage positives.1.drafts
      (config.targetSize - negatives.1.drafts.length)
    (kept ++ negatives.1.drafts).length ≤ config.targetSize ∧
      min config.targetSize (plainQuestions task schema).card ≤
        (kept ++ negatives.1.drafts).length := by
  intro kept
  have hcomplete := synthesizePositives_complete hplans config.paraphrase
    (config.targetSize - negatives.1.drafts.length) negatives.1 negatives.2
  rw [hpositives] at hcomplete
  obtain ⟨hgrows, hfew, hgrows'⟩ := phases_grow hplans hnegatives hpositives
  have hsourced := (DraftPool.sourced_empty.grows hgrows).nextPhase.grows hgrows'
  have hcard : config.targetSize - negatives.1.drafts.length ≤ positives.1.drafts.length ∨
      (plainQuestions task schema).card ≤
        (negatives.1.drafts ++ positives.1.drafts).length := by
    refine hcomplete.imp_right fun hseen ↦ ?_
    have hsubset : plainQuestions task schema ⊆
        ((negatives.1.drafts ++ positives.1.drafts).map Draft.key).toFinset := fun key hkey ↦
      List.mem_toFinset.mpr (hsourced key (hseen key hkey))
    calc (plainQuestions task schema).card
        ≤ ((negatives.1.drafts ++ positives.1.drafts).map Draft.key).toFinset.card :=
          Finset.card_le_card hsubset
      _ ≤ ((negatives.1.drafts ++ positives.1.drafts).map Draft.key).length :=
          List.toFinset_card_le _
      _ = (negatives.1.drafts ++ positives.1.drafts).length := List.length_map _
  have htarget := hardNegativeTarget_le config
  simp only [kept, List.length_append, length_clipPreservingCoverage] at hcard ⊢
  omega

theorem length_kept_le {source : σ} {plans : List IntentPlan}
    {negatives positives : DraftPool × σ}
    (hplans : intentPlans schema (inferIntents task schema) = .ok plans)
    (hnegatives : synthesizeNegatives schema (inferIntents task schema) (hardNegativeTarget config)
      source = negatives)
    (hpositives : synthesizePositives schema config.paraphrase plans
      (config.targetSize - negatives.1.drafts.length) negatives.1 negatives.2 = positives)
    (hplain : config.hardNegatives = false ∧ config.paraphrase = false) :
    (clipPreservingCoverage positives.1.drafts (config.targetSize - negatives.1.drafts.length) ++
      negatives.1.drafts).length ≤ (plainQuestions task schema).card := by
  obtain ⟨hgrows, hfew, hgrows'⟩ := phases_grow hplans hnegatives hpositives
  rw [hplain.2] at hgrows'
  have hnone : hardNegativeTarget config = 0 := by simp [hardNegativeTarget, hplain.1]
  have hdistinct := ((DraftPool.distinct_empty.grows hgrows).nextPhase.grows hgrows').nodup
  rw [hnone, Nat.le_zero, List.length_eq_zero_iff] at hfew
  rw [hfew, List.nil_append] at hdistinct
  have hsubset : (positives.1.drafts.map Draft.key).toFinset ⊆ plainQuestions task schema := by
    intro key hkey
    obtain ⟨draft, hdraft, rfl⟩ := List.mem_map.mp (List.mem_toFinset.mp hkey)
    exact (hgrows'.forall_mem (by simp) draft hdraft).key_mem_plainQuestions
  have hcard := Finset.card_le_card hsubset
  rw [List.toFinset_card_of_nodup hdistinct, List.length_map] at hcard
  rw [hfew, List.append_nil, length_clipPreservingCoverage]
  exact (Nat.min_le_right ..).trans hcard

theorem exists_plans_of_insufficientCases {source : σ} {requested available : ℕ}
    (h : synthesize task schema config source =
      .error (.failed (.insufficientCases requested available))) :
    ¬ (schema.entities.isEmpty ∧ schema.relations.isEmpty) ∧
      ∃ plans, intentPlans schema (inferIntents task schema) = .ok plans := by
  unfold synthesize at h
  by_cases hschema : schema.entities.isEmpty ∧ schema.relations.isEmpty
  · rw [if_pos hschema] at h
    cases h
  · simp only [if_neg hschema] at h
    cases hplans : intentPlans schema (inferIntents task schema) with
    | ok plans => exact ⟨hschema, plans, rfl⟩
    | error e =>
      obtain ⟨intent, rfl⟩ := intentPlans_error hplans
      rw [hplans] at h
      cases h

/-- Synthesis lacks cases only if the usable templates make fewer plain questions than are wanted,
and then it reports at least as many as they make. Where they make enough, and every intent has a
usable template, a dataset is found whenever the target size can be split. -/
theorem synthesize_complete (task : String) (schema : Schema) (config : DatasetConfig α)
    (source : σ) :
    let questions := plainQuestions task schema
    (config.targetSize ≤ questions.card → ∀ requested available,
        synthesize task schema config source ≠ .error (.failed (.insufficientCases requested available))) ∧
      (∀ requested available,
        synthesize task schema config source = .error (.failed (.insufficientCases requested available)) →
          requested = config.targetSize ∧ questions.card ≤ available ∧ available < requested) ∧
      (¬ (schema.entities = [] ∧ schema.relations = []) →
        (∀ intent ∈ inferIntents task schema, intent.usable schema ≠ []) →
          config.targetSize ≤ questions.card →
            ∀ sizes, splitSizes config.targetSize config = .ok sizes →
              ∃ dataset, synthesize task schema config source = .ok dataset) := by
  intro questions
  have hshort : ∀ requested available,
      synthesize task schema config source = .error (.failed (.insufficientCases requested available)) →
        requested = config.targetSize ∧ questions.card ≤ available ∧ available < requested := by
    intro requested available h
    obtain ⟨hschema, plans, hplans⟩ := exists_plans_of_insufficientCases h
    obtain ⟨negatives, positives, hnegatives, hpositives, heq⟩ :=
      synthesize_eq hschema hplans config source
    have hkept := (le_length_kept hplans hnegatives hpositives).2
    rw [heq] at h
    obtain hsizes | ⟨sizes, -, h⟩ := bind_eq_error_iff.mp h
    · cases splitSizes_failed hsizes
    · split at h
      · next hless =>
        obtain ⟨rfl, rfl⟩ := SynthesisError.insufficientCases.inj
          (SynthesisStop.failed.inj (Except.error.inj h))
        exact ⟨rfl, (min_le_iff.mp hkept).resolve_left (Nat.not_le.mpr hless), hless⟩
      · cases h
  refine ⟨fun henough requested available h ↦ ?_, hshort,
    fun hterms husable henough sizes hsizes ↦ ?_⟩
  · obtain ⟨rfl, havailable, hless⟩ := hshort requested available h
    exact absurd henough (by omega)
  · obtain ⟨plans, hplans⟩ := intentPlans_of_usable husable
    obtain ⟨negatives, positives, hnegatives, hpositives, heq⟩ :=
      synthesize_eq (by simpa using hterms) hplans config source
    obtain ⟨hle, hkept⟩ := le_length_kept hplans hnegatives hpositives
    have hlength := Nat.le_antisymm hle ((Nat.le_min.mpr ⟨le_rfl, henough⟩).trans hkept)
    rw [heq, hlength, hsizes]
    exact ⟨_, if_neg (Nat.lt_irrefl _)⟩

theorem synthesize_eq_insufficientCases (hterms : ¬ (schema.entities = [] ∧ schema.relations = []))
    (husable : ∀ intent ∈ inferIntents task schema, intent.usable schema ≠ [])
    (hplain : config.hardNegatives = false ∧ config.paraphrase = false)
    (hfew : (plainQuestions task schema).card < config.targetSize) {sizes : PerSplit ℕ}
    (hsizes : splitSizes (plainQuestions task schema).card config = .ok sizes) (source : σ) :
    synthesize task schema config source =
      .error (.failed (.insufficientCases config.targetSize (plainQuestions task schema).card)) := by
  obtain ⟨plans, hplans⟩ := intentPlans_of_usable husable
  obtain ⟨negatives, positives, hnegatives, hpositives, heq⟩ :=
    synthesize_eq (by simpa using hterms) hplans config source
  have hkept := (le_length_kept hplans hnegatives hpositives).2
  rw [Nat.min_eq_right hfew.le] at hkept
  have hlength := Nat.le_antisymm (length_kept_le hplans hnegatives hpositives hplain) hkept
  rw [heq, hlength, hsizes]
  exact if_pos hfew

end Outcome

/-- Three plain questions are too few for six cases, and enough for three. -/
theorem threeQuestions_complete :
    let schema : Schema := ⟨["Person", "Account", "Loan"], []⟩
    let config (target : ℕ) : DatasetConfig ℚ :=
      { DatasetConfig.default with
        targetSize := target
        hardNegatives := false
        paraphrase := false }
    let source := ChaCha.ofSeed 1
    synthesize "Find accounts" schema (config 6) source = .error (.failed (.insufficientCases 6 3)) ∧
      (plainQuestions "Find accounts" schema).card = 3 ∧
      (∀ requested available, synthesize "Find accounts" schema (config 3) source ≠
        .error (.failed (.insufficientCases requested available))) ∧
      ∃ dataset, synthesize "Find accounts" schema (config 3) source = .ok dataset := by
  intro schema config source
  have hthree : (plainQuestions "Find accounts" schema).card = 3 := by decide +kernel
  have husable : ∀ intent ∈ inferIntents "Find accounts" schema, intent.usable schema ≠ [] := by
    decide +kernel
  have hsplit (target : ℕ) : ∃ sizes, splitSizes 3 (config target) = .ok sizes := by
    have hok : (splitSizes 3 (config 3)).isOk = true := by decide +kernel
    exact exists_eq_ok_of_isOk hok
  have hfew : synthesize "Find accounts" schema (config 6) source =
      .error (.failed (.insufficientCases 6 3)) := by
    obtain ⟨sizes, hsizes⟩ := hsplit 6
    have hless : (plainQuestions "Find accounts" schema).card < (config 6).targetSize :=
      hthree.trans_lt (by decide)
    rw [← hthree] at hsizes
    have hlack := synthesize_eq_insufficientCases (by decide) husable ⟨rfl, rfl⟩ hless hsizes source
    rwa [hthree] at hlack
  obtain ⟨sizes, hsizes⟩ := hsplit 3
  obtain ⟨-, hshort, -⟩ := synthesize_complete "Find accounts" schema (config 6) source
  obtain ⟨henough, -, hdataset⟩ := synthesize_complete "Find accounts" schema (config 3) source
  refine ⟨hfew, Nat.le_antisymm (hshort 6 3 hfew).2.1 hthree.ge, henough hthree.ge, ?_⟩
  exact hdataset (by decide) husable hthree.ge sizes hsizes

end WorkflowSearch
