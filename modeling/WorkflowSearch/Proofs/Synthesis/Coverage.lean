import WorkflowSearch.Config.Validity
import WorkflowSearch.Proofs.Scalar.Exact
import WorkflowSearch.Proofs.Synthesis.Clip
import WorkflowSearch.Proofs.Synthesis.Integrity
import WorkflowSearch.Proofs.Synthesis.Openings
import WorkflowSearch.Random.ChaCha

namespace WorkflowSearch

variable {α σ : Type}

section Turns

/-- The first draft of the intent at a place comes before those of all later intents. -/
def Placed (intents : List Intent) (i : ℕ) (drafts : List Draft) : Prop :=
  ∃ before draft after, drafts = before ++ draft :: after ∧ intents[i]? = some draft.intent ∧
    ∀ earlier ∈ before, earlier.intent ∈ intents.take i

/-- The intent at a place has its first draft in order, or is that of queries and a hard negative
asks as one. -/
def Taken (intents : List Intent) (earlier : List Draft) (i : ℕ) (drafts : List Draft) : Prop :=
  Placed intents i drafts ∨ earlier ≠ [] ∧ intents[i]? = some .query

variable {intents : List Intent} {earlier drafts drafts' : List Draft} {i : ℕ}

theorem Taken.mono (h : Taken intents earlier i drafts) (hmore : drafts <+: drafts') :
    Taken intents earlier i drafts' := by
  refine h.imp_left ?_
  rintro ⟨before, draft, after, rfl, hintent, hbefore⟩
  obtain ⟨rest, rfl⟩ := hmore
  exact ⟨before, draft, after ++ rest, by simp, hintent, hbefore⟩

theorem not_mem_take (hnodup : intents.Nodup) {intent : Intent} (h : intents[i]? = some intent) :
    intent ∉ intents.take i := by
  obtain ⟨hlt, rfl⟩ := List.getElem?_eq_some_iff.mp h
  intro hmem
  obtain ⟨j, hj, hsame⟩ := List.mem_take_iff_getElem.mp hmem
  have hij := (hnodup.getElem_inj_iff).mp hsame
  omega

theorem Placed.exists_kept (h : Placed intents i drafts) (hnodup : intents.Nodup) {limit : ℕ}
    (hroom : i < limit) :
    ∃ draft ∈ clipPreservingCoverage drafts limit, intents[i]? = some draft.intent := by
  obtain ⟨before, draft, after, rfl, hintent, hbefore⟩ := h
  refine ⟨draft, mem_clipPreservingCoverage (fun other hother heq ↦ ?_) ?_, hintent⟩
  · exact not_mem_take hnodup hintent (heq ▸ hbefore other hother)
  · have hsubset : (before.map (·.intent)).toFinset ⊆ (intents.take i).toFinset := by
      intro intent hmem
      obtain ⟨other, hother, rfl⟩ := List.mem_map.mp (List.mem_toFinset.mp hmem)
      exact List.mem_toFinset.mpr (hbefore other hother)
    calc (before.map (·.intent)).toFinset.card
        ≤ (intents.take i).toFinset.card := Finset.card_le_card hsubset
      _ ≤ (intents.take i).length := List.toFinset_card_le _
      _ ≤ i := List.length_take_le ..
      _ < limit := hroom

theorem Taken.exists_draft (h : Taken intents earlier i drafts) (hnodup : intents.Nodup)
    (hfirst : intents[i]? = some .query → i = 0)
    (hearlier : earlier ≠ [] → ∃ draft ∈ earlier, intents[0]? = some draft.intent) {limit : ℕ}
    (hroom : i < limit) :
    ∃ draft ∈ clipPreservingCoverage drafts limit ++ earlier, intents[i]? = some draft.intent := by
  obtain hplaced | ⟨hsome, hquery⟩ := h
  · obtain ⟨draft, hdraft, hintent⟩ := hplaced.exists_kept hnodup hroom
    exact ⟨draft, List.mem_append_left _ hdraft, hintent⟩
  · obtain rfl := hfirst hquery
    obtain ⟨draft, hdraft, hintent⟩ := hearlier hsome
    exact ⟨draft, List.mem_append_right _ hdraft, hintent⟩

structure InTurn (schema : Schema) (intents : List Intent) (earlier : List Draft) (attempt : ℕ)
    (pool : DraftPool) : Prop where
  sourced : pool.Sourced earlier
  rendered : ∀ draft ∈ pool.drafts, draft.Rendered schema ∧ draft.intent ∈ intents.take attempt
  taken : ∀ i < attempt, Taken intents earlier i pool.drafts

variable {schema : Schema} {pool : DraftPool} [RandomSource σ]

theorem InTurn.next {attempt : ℕ} (h : InTurn schema intents earlier attempt pool)
    (hearlier : ∀ draft ∈ earlier, draft.Unanswerable schema) (hnodup : intents.Nodup)
    {intent : Intent} (hintent : intents[attempt]? = some intent)
    (husable : intent.usable schema ≠ []) (paraphrase : Bool) (source : σ) :
    InTurn schema intents earlier (attempt + 1)
      (draftPositive schema paraphrase ⟨intent, intent.usable schema⟩ pool source).1 := by
  obtain ⟨draft, hdraft, hgrows⟩ := draftPositive_spec paraphrase
    (Intent.fits_usable (List.mem_singleton_self intent)) husable pool source
  generalize (draftPositive schema paraphrase ⟨intent, intent.usable schema⟩ pool source).1 = pool'
    at hgrows ⊢
  have hsame : draft.intent = intent := List.mem_singleton.mp hdraft.intent_mem
  have htake : intent ∈ intents.take (attempt + 1) :=
    List.mem_of_getElem? (List.getElem?_take_of_lt (Nat.lt_succ_self attempt) ▸ hintent)
  have hdrawn : pool.Grows (·.Drawn schema [intent] paraphrase) pool' :=
    (DraftPool.grows_add hdraft pool).trans hgrows
  have hkinds : pool.Grows
      (fun draft ↦ draft.Rendered schema ∧ draft.intent ∈ intents.take (attempt + 1)) pool' :=
    hdrawn.mono fun other hother ↦
      ⟨hother.rendered, List.mem_singleton.mp hother.intent_mem ▸ htake⟩
  refine ⟨h.sourced.grows hkinds, hkinds.forall_mem fun other hother ↦ ?_, fun i hi ↦ ?_⟩
  · obtain ⟨hrendered, hmem⟩ := h.rendered other hother
    exact ⟨hrendered, (List.take_subset_take_left _ (Nat.le_succ attempt)) hmem⟩
  · obtain hlt | rfl := Nat.lt_succ_iff_lt_or_eq.mp hi
    · exact (h.taken i hlt).mono hkinds.extends
    · refine Taken.mono ?_ hgrows.extends
      obtain ⟨hknown, -⟩ | ⟨-, hdrafts⟩ := pool.add_cases draft
      · -- No attempt before this one was of its intent, so a hard negative has the question.
        obtain ⟨other, hother, hkey⟩ := List.mem_map.mp (h.sourced _ hknown)
        have hintentKey : intentOfKey? other.key = some intent := by
          rw [hkey, hdraft.rendered.intentOfKey?, hsame]
        obtain hnegative | hpositive := List.mem_append.mp hother
        · refine .inr ⟨List.ne_nil_of_mem hnegative, hintent.trans ?_⟩
          rw [← hintentKey, (hearlier other hnegative).intentOfKey?]
        · obtain ⟨hrendered, hmem⟩ := h.rendered other hpositive
          have hother := Option.some.inj (hrendered.intentOfKey?.symm.trans hintentKey)
          exact absurd (hother ▸ hmem) (not_mem_take hnodup hintent)
      · rw [hdrafts]
        exact .inl ⟨pool.drafts, draft, [], rfl, hsame ▸ hintent, fun other hother ↦
          (h.rendered other hother).2⟩

theorem InTurn.run {attempt remaining : ℕ} (h : InTurn schema intents earlier attempt pool)
    (hearlier : ∀ draft ∈ earlier, draft.Unanswerable schema) (hnodup : intents.Nodup)
    (husable : ∀ intent ∈ intents, intent.usable schema ≠ []) (hattempt : attempt ≤ intents.length)
    (hremaining : intents.length ≤ attempt + remaining) (paraphrase : Bool) (target : ℕ)
    (source : σ) :
    let plans := (intents.map fun intent ↦ IntentPlan.mk intent (intent.usable schema)).toArray
    ∀ i < intents.length, Taken intents earlier i
      (draftPositives schema paraphrase plans target remaining attempt pool source).1.drafts := by
  intro plans
  have hsize : plans.size = intents.length := by simp [plans]
  have hplans : ∀ plan ∈ plans, plan.Fits schema intents ∧ plan.templates ≠ [] := by
    intro plan hplan
    obtain ⟨intent, hintent, rfl⟩ := List.mem_map.mp (List.mem_toArray.mp hplan)
    exact ⟨Intent.fits_usable hintent, husable intent hintent⟩
  induction remaining generalizing attempt pool source with
  | zero =>
    obtain rfl : attempt = intents.length := by omega
    exact h.taken
  | succ remaining ih =>
    obtain rfl | hlt := Nat.eq_or_lt_of_le hattempt
    · exact fun i hi ↦ (h.taken i hi).mono (draftPositives_grows paraphrase hplans ..).extends
    · have hintent := List.getElem?_eq_getElem hlt
      have hplan : plans[attempt % plans.size]? =
          some ⟨intents[attempt], intents[attempt].usable schema⟩ := by
        rw [hsize, Nat.mod_eq_of_lt hlt]
        simp [plans, hintent]
      rw [draftPositives, if_neg (by omega), hplan]
      refine ih (h.next hearlier hnodup hintent (husable _ (List.getElem_mem hlt)) ..) hlt ?_ _
      omega

theorem synthesizePositives_taken {plans : List IntentPlan}
    (hplans : intentPlans schema intents = .ok plans) (hnodup : intents.Nodup)
    (hsourced : pool.Sourced []) (hpool : ∀ draft ∈ pool.drafts, draft.Unanswerable schema)
    (paraphrase : Bool) (target : ℕ) (source : σ) :
    ∀ i < intents.length, Taken intents pool.drafts i
      (synthesizePositives schema paraphrase plans target pool source).1.drafts := by
  have hfits := intentPlans_fits hplans
  obtain ⟨rfl, husable⟩ := intentPlans_eq hplans
  have hstart : InTurn schema intents pool.drafts 0 pool.nextPhase :=
    ⟨hsourced.nextPhase, by simp, by simp⟩
  intro i hi
  rw [synthesizePositives_fst]
  refine Taken.mono (hstart.run hpool hnodup husable (Nat.zero_le _) ?_ paraphrase target source
    i hi) (DraftPool.grows_sweep target (allPositives_drawn paraphrase hfits) _).extends
  simp only [List.length_map, attemptsPerCase]
  omega

theorem exists_head_synthesizeNegatives {target : ℕ} {source : σ}
    (h : (synthesizeNegatives schema intents target source).1.drafts ≠ []) :
    ∃ draft ∈ (synthesizeNegatives schema intents target source).1.drafts,
      intents[0]? = some draft.intent := by
  unfold synthesizeNegatives at h ⊢
  dsimp only at h ⊢
  split at h
  · exact absurd rfl h
  · next hschema =>
    rw [if_neg hschema]
    generalize target * attemptsPerCase = attempts at h ⊢
    cases attempts with
    | zero => exact absurd rfl h
    | succ remaining =>
      obtain hend | ⟨hroom, draft, source', -, hintent, hnext⟩ :=
        draftNegatives_succ schema intents target remaining 0 .empty source
      · rw [hend] at h
        exact absurd rfl h
      · refine ⟨draft, ?_, by simpa using hintent⟩
        obtain ⟨hgrows, -⟩ := draftNegatives_spec schema intents target remaining 1
          (DraftPool.empty.add draft) source'
          (Nat.le_trans (DraftPool.length_add_le _ draft) hroom)
        rw [hnext]
        exact hgrows.extends.subset (List.mem_singleton_self draft)

end Turns

section Inferred

variable {task : String} {schema : Schema}

theorem inferIntents_sublist (task : String) (schema : Schema) :
    (inferIntents task schema).Sublist Intent.all := by
  unfold inferIntents
  dsimp only
  split
  · exact List.filter_sublist
  · split
    · decide
    · decide

theorem inferIntents_nodup (task : String) (schema : Schema) : (inferIntents task schema).Nodup :=
  List.Nodup.sublist (inferIntents_sublist task schema) (by decide)

theorem eq_zero_of_getElem?_query {i : ℕ} (h : (inferIntents task schema)[i]? = some .query) :
    i = 0 := by
  have hlater : Intent.query ∉ [Intent.analytics, .modeling, .ingest, .qa] := by decide
  have hsublist :
      (inferIntents task schema).Sublist [.query, .analytics, .modeling, .ingest, .qa] :=
    inferIntents_sublist task schema
  generalize inferIntents task schema = intents at h hsublist
  cases hsublist with
  | cons _ hrest => exact absurd (hrest.subset (List.mem_of_getElem? h)) hlater
  | cons_cons _ hrest =>
    cases i with
    | zero => rfl
    | succ i => exact absurd (hrest.subset (List.mem_of_getElem? h)) hlater

end Inferred

section Dataset

def Dataset.Covers (dataset : Dataset α) (intent : Intent) : Prop :=
  ∃ n, (intent, n) ∈ dataset.report.intentCoverage ∧ 1 ≤ n

variable [Scalar α] [RandomSource σ] {task : String} {schema : Schema} {config : DatasetConfig α}
  {source : σ} {dataset : Dataset α}

theorem covers_iff (h : synthesize task schema config source = .ok dataset) (intent : Intent) :
    dataset.Covers intent ↔ ∃ case ∈ dataset.cases, case.intent = intent := by
  obtain ⟨-, pool, -, -, -, -, -, hreport⟩ := exists_drafts_of_synthesize h
  have hcount (n : ℕ) : (intent, n) ∈ dataset.report.intentCoverage ↔
      n = dataset.cases.countP (·.intent = intent) ∧ n ≠ 0 := by
    rw [hreport]
    exact mem_tally_map Intent.mem_all (·.intent) dataset.cases intent n
  constructor
  · rintro ⟨n, hn, hpos⟩
    obtain ⟨rfl, -⟩ := (hcount n).mp hn
    obtain ⟨case, hcase, hintent⟩ := List.countP_pos_iff.mp hpos
    exact ⟨case, hcase, by simpa using hintent⟩
  · rintro ⟨case, hcase, hintent⟩
    have hpos : 0 < dataset.cases.countP (·.intent = intent) :=
      List.countP_pos_iff.mpr ⟨case, hcase, decide_eq_true hintent⟩
    exact ⟨_, (hcount _).mpr ⟨rfl, hpos.ne'⟩, hpos⟩

theorem countP_hardNegative {intents : List Intent} {cases : List Case}
    {kept negatives : List Draft} (h : (cases.map Case.draft).Perm (kept ++ negatives))
    (hkept : ∀ draft ∈ kept, draft.Positive schema intents)
    (hnegatives : ∀ draft ∈ negatives, draft.Negative schema intents) :
    cases.countP (·.origin.hardNegative) = negatives.length := by
  have hnone : kept.countP (·.hardNegative) = 0 :=
    List.countP_eq_zero.mpr fun draft hdraft ↦ by simp [(hkept draft hdraft).hardNegative]
  have hall : negatives.countP (·.hardNegative) = negatives.length :=
    List.countP_eq_length.mpr fun draft hdraft ↦ (hnegatives draft hdraft).hardNegative
  calc cases.countP (·.origin.hardNegative)
      = (cases.map Case.draft).countP (·.hardNegative) := by
        rw [List.countP_map]
        rfl
    _ = (kept ++ negatives).countP (·.hardNegative) := h.countP_eq _
    _ = negatives.length := by rw [List.countP_append, hnone, hall, Nat.zero_add]

theorem exists_draft_of_turn {plans : List IntentPlan} {negatives positives : DraftPool × σ}
    (hplans : intentPlans schema (inferIntents task schema) = .ok plans)
    (hnegatives : synthesizeNegatives schema (inferIntents task schema) (hardNegativeTarget config)
      source = negatives)
    (hpositives : synthesizePositives schema config.paraphrase plans
      (config.targetSize - negatives.1.drafts.length) negatives.1 negatives.2 = positives)
    {i : ℕ} {intent : Intent} (hintent : (inferIntents task schema)[i]? = some intent)
    (hroom : i + negatives.1.drafts.length < config.targetSize) :
    ∃ draft ∈ clipPreservingCoverage positives.1.drafts
      (config.targetSize - negatives.1.drafts.length) ++ negatives.1.drafts,
      draft.intent = intent := by
  obtain ⟨hgrows, -⟩ := phases_grow hplans hnegatives hpositives
  have hunanswerable : ∀ draft ∈ negatives.1.drafts, draft.Unanswerable schema := fun draft hdraft ↦
    (hgrows.forall_mem (by simp) draft hdraft).unanswerable
  have htaken := synthesizePositives_taken hplans (inferIntents_nodup task schema)
    (DraftPool.sourced_empty.grows hgrows) hunanswerable config.paraphrase
    (config.targetSize - negatives.1.drafts.length) negatives.2 i
    (List.getElem?_eq_some_iff.mp hintent).1
  rw [hpositives] at htaken
  obtain ⟨draft, hdraft, hsame⟩ := htaken.exists_draft (inferIntents_nodup task schema)
    eq_zero_of_getElem?_query (hnegatives ▸ exists_head_synthesizeNegatives)
    (Nat.lt_sub_of_add_lt hroom)
  exact ⟨draft, hdraft, Option.some.inj (hsame.symm.trans hintent)⟩

theorem exists_turns_of_synthesize (h : synthesize task schema config source = .ok dataset) :
    dataset.report.hardNegativeCount ≤ hardNegativeTarget config ∧
      ∃ drafts, (dataset.cases.map Case.draft).Perm drafts ∧
        ∀ i intent, (inferIntents task schema)[i]? = some intent →
          i + dataset.report.hardNegativeCount < config.targetSize →
            ∃ draft ∈ drafts, draft.intent = intent := by
  obtain ⟨plans, negatives, positives, sizes, hplans, hnegatives, hpositives, hsizes, -, rfl⟩ :=
    exists_of_synthesize h
  obtain ⟨hgrows, hfew, hgrows'⟩ := phases_grow hplans hnegatives hpositives
  have hkept : ∀ draft ∈ clipPreservingCoverage positives.1.drafts
      (config.targetSize - negatives.1.drafts.length),
      draft.Positive schema (inferIntents task schema) := fun draft hdraft ↦
    (hgrows'.forall_mem (by simp) draft
      ((clipPreservingCoverage_sublist _ _).subset hdraft)).toPositive
  have hperm (drafts : List Draft) := draft_assignSplits_perm drafts sizes positives.2
  have hcount := countP_hardNegative (hperm _) hkept (hgrows.forall_mem (by simp))
  dsimp only [reportCases]
  rw [hcount]
  exact ⟨hfew, _, hperm _, fun i intent ↦ exists_draft_of_turn hplans hnegatives hpositives⟩

/-- A dataset covers the intents of its task in turn, as many as it has cases that are no hard
negatives. Those are all intents if the hard negatives, which are no more than their rounded share
of the target, leave a case for each. -/
theorem synthesize_covers (h : synthesize task schema config source = .ok dataset) :
    let intents := inferIntents task schema
    let negatives := dataset.report.hardNegativeCount
    (∀ intent, dataset.Covers intent ↔ ∃ case ∈ dataset.cases, case.intent = intent) ∧
      negatives ≤ hardNegativeTarget config ∧
      (∀ i intent, intents[i]? = some intent → i + negatives < config.targetSize →
        dataset.Covers intent) ∧
      (intents.length + negatives ≤ config.targetSize →
        ∀ intent ∈ intents, dataset.Covers intent) := by
  intro intents negatives
  obtain ⟨hfew, drafts, hperm, hturn⟩ := exists_turns_of_synthesize h
  have hcovered (i : ℕ) (intent : Intent) (hintent : intents[i]? = some intent)
      (hroom : i + negatives < config.targetSize) : dataset.Covers intent := by
    obtain ⟨draft, hdraft, hsame⟩ := hturn i intent hintent hroom
    obtain ⟨case, hcase, rfl⟩ := List.mem_map.mp (hperm.symm.subset hdraft)
    exact (covers_iff h intent).mpr ⟨case, hcase, hsame⟩
  refine ⟨covers_iff h, hfew, hcovered, fun hroom intent hintent ↦ ?_⟩
  obtain ⟨i, hi, rfl⟩ := List.mem_iff_getElem.mp hintent
  exact hcovered i _ (List.getElem?_eq_getElem hi) (by omega)

theorem threeIntents_report :
    let config : DatasetConfig ℚ := { DatasetConfig.default with targetSize := 3, minSize := 3 }
    ∃ dataset, synthesize "Find, rank and explain accounts" ⟨["Account"], ["OWNS"]⟩ config
        (ChaCha.ofSeed 1) = .ok dataset ∧
      dataset.report.hardNegativeCount = 1 ∧
      dataset.report.intentCoverage = [(.query, 2), (.analytics, 1)] := by
  intro config
  have hreport : (synthesize "Find, rank and explain accounts" ⟨["Account"], ["OWNS"]⟩ config
      (ChaCha.ofSeed 1)).toOption.map
        (fun dataset ↦ (dataset.report.hardNegativeCount, dataset.report.intentCoverage)) =
      some (1, [(.query, 2), (.analytics, 1)]) := by
    decide +kernel
  obtain ⟨dataset, hdataset, hreport⟩ := exists_eq_ok_of_map hreport
  obtain ⟨hcount, hcoverage⟩ := Prod.mk.inj hreport
  exact ⟨dataset, hdataset, hcount, hcoverage⟩

/-- The first two of the three intents are covered. -/
theorem threeIntents_covered :
    let config : DatasetConfig ℚ := { DatasetConfig.default with targetSize := 3, minSize := 3 }
    ∃ dataset, synthesize "Find, rank and explain accounts" ⟨["Account"], ["OWNS"]⟩ config
        (ChaCha.ofSeed 1) = .ok dataset ∧
      dataset.Covers .query ∧ dataset.Covers .analytics := by
  intro config
  obtain ⟨dataset, hdataset, hcount, -⟩ := threeIntents_report
  have hintents : inferIntents "Find, rank and explain accounts" ⟨["Account"], ["OWNS"]⟩ =
      [.query, .analytics, .qa] := by decide +kernel
  obtain ⟨-, -, hcovered, -⟩ := synthesize_covers hdataset
  rw [hintents, hcount] at hcovered
  exact ⟨dataset, hdataset, hcovered 0 .query rfl (by decide),
    hcovered 1 .analytics rfl (by decide)⟩

/-- A hard negative takes the place of the only case of the third intent, though the target has room
for all three. -/
theorem threeIntents_uncovered :
    let config : DatasetConfig ℚ := { DatasetConfig.default with targetSize := 3, minSize := 3 }
    config.validate = .ok () ∧
      inferIntents "Find, rank and explain accounts" ⟨["Account"], ["OWNS"]⟩ =
        [.query, .analytics, .qa] ∧
      [Intent.query, .analytics, .qa].length ≤ config.targetSize ∧
      ∃ dataset, synthesize "Find, rank and explain accounts" ⟨["Account"], ["OWNS"]⟩ config
          (ChaCha.ofSeed 1) = .ok dataset ∧
        ¬ dataset.Covers .qa ∧ ∀ case ∈ dataset.cases, case.intent ≠ .qa := by
  intro config
  obtain ⟨dataset, hdataset, -, hcoverage⟩ := threeIntents_report
  have hvalid : config.validate = .ok () := eq_ok_of_isOk (by decide +kernel)
  have huncovered : ¬ dataset.Covers .qa := by
    rintro ⟨n, hn, -⟩
    rw [hcoverage] at hn
    simp at hn
  refine ⟨hvalid, by decide +kernel, by decide, dataset, hdataset, huncovered,
    fun case hcase hintent ↦ ?_⟩
  exact huncovered ((covers_iff hdataset .qa).mpr ⟨case, hcase, hintent⟩)

end Dataset

end WorkflowSearch
