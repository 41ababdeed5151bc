import Mathlib.Tactic.Common
import WorkflowSearch.Proofs.Dataset.Slicing
import WorkflowSearch.Proofs.Random.Choices
import WorkflowSearch.Proofs.Results
import WorkflowSearch.Synthesis.Basic

namespace WorkflowSearch

variable {α σ : Type}

theorem foldl_choice {β : Type} {step : Option β → β → Option β}
    (hstep : ∀ best b, step best b = best ∨ step best b = some b) {items : List β}
    {start : Option β} {b : β} (h : items.foldl step start = some b) :
    start = some b ∨ b ∈ items := by
  induction items generalizing start with
  | nil => exact .inl h
  | cons item items ih =>
    rcases ih h with hitem | hmem
    · rcases hstep start item with hkept | htaken
      · exact .inl (hkept.symm.trans hitem)
      · exact .inr (by simp [Option.some.inj (htaken.symm.trans hitem)])
    · exact .inr (List.mem_cons_of_mem _ hmem)

theorem donor?_spec {sizes : PerSplit ℕ} {minimum : ℕ} {split donor : Split}
    (h : donor? sizes minimum split = some donor) : donor ≠ split ∧ minimum < sizes.get donor := by
  unfold donor? at h
  refine (foldl_choice (fun best s ↦ ?_) h).elim (fun hnone ↦ ?_) fun hmem ↦ ?_
  · cases best with
    | none => exact .inr rfl
    | some b =>
      dsimp only
      split
      · exact .inr rfl
      · exact .inl rfl
  · cases hnone
  · simpa using (List.mem_filter.mp hmem).2

theorem fillSplit_spec {minimum missing : ℕ} {split : Split} {sizes filled : PerSplit ℕ}
    (h : fillSplit minimum split missing sizes = some filled) :
    filled.get split = sizes.get split + missing ∧
      ∀ other ≠ split, minimum ≤ sizes.get other → minimum ≤ filled.get other := by
  induction missing generalizing sizes with
  | zero =>
    obtain rfl := Option.some.inj h
    exact ⟨rfl, fun _ _ h ↦ h⟩
  | succ missing ih =>
    rw [fillSplit] at h
    cases hdonor : donor? sizes minimum split with
    | none => simp [hdonor] at h
    | some donor =>
      rw [hdonor] at h
      obtain ⟨hne, hspare⟩ := donor?_spec hdonor
      obtain ⟨hsplit, hothers⟩ := ih h
      constructor
      · rw [hsplit, PerSplit.get_modify_self, PerSplit.get_modify_of_ne _ _ hne.symm]
        omega
      · intro other hother hmin
        refine hothers other hother ?_
        rw [PerSplit.get_modify_of_ne _ _ hother]
        by_cases hd : other = donor
        · subst hd
          rw [PerSplit.get_modify_self]
          omega
        · rwa [PerSplit.get_modify_of_ne _ _ hd]

def PerSplit.total (sizes : PerSplit ℕ) : ℕ :=
  sizes.train + sizes.validation + sizes.test

theorem PerSplit.total_lend {sizes : PerSplit ℕ} {donor split : Split} (hne : donor ≠ split)
    (hspare : 0 < sizes.get donor) :
    ((sizes.modify (· - 1) donor).modify (· + 1) split).total = sizes.total := by
  cases donor <;> cases split <;> simp_all [PerSplit.get, PerSplit.modify, PerSplit.total] <;> omega

theorem total_fillSplit {minimum missing : ℕ} {split : Split} {sizes filled : PerSplit ℕ}
    (h : fillSplit minimum split missing sizes = some filled) : filled.total = sizes.total := by
  induction missing generalizing sizes with
  | zero =>
    obtain rfl := Option.some.inj h
    rfl
  | succ missing ih =>
    rw [fillSplit] at h
    cases hdonor : donor? sizes minimum split with
    | none => simp [hdonor] at h
    | some donor =>
      rw [hdonor] at h
      obtain ⟨hne, hspare⟩ := donor?_spec hdonor
      rw [ih h, PerSplit.total_lend hne (Nat.zero_lt_of_lt hspare)]

variable [Scalar α]

@[simp]
theorem checkedSub_eq_some_iff {a b c : ℕ} : checkedSub a b = some c ↔ b ≤ a ∧ a - b = c := by
  unfold checkedSub
  split <;> simp_all

theorem exists_fills_of_splitSizes {size : ℕ} {config : DatasetConfig α} {sizes : PerSplit ℕ}
    (h : splitSizes size config = .ok sizes) :
    size ≠ 0 ∧ ∃ start a b, floorSizes size config.splitRatios = some start ∧
      let minimum := config.minPerSplit
      fillSplit minimum .train (minimum - start.get .train) start = some a ∧
      fillSplit minimum .validation (minimum - a.get .validation) a = some b ∧
      fillSplit minimum .test (minimum - b.get .test) b = some sizes := by
  unfold splitSizes at h
  dsimp only at h
  split at h
  · cases h
  · next hsize =>
    refine ⟨fun h0 ↦ hsize (.inr h0), ?_⟩
    split at h
    · cases h
    · next start hstart =>
      split at h
      · next filled hfilled =>
        obtain rfl := Except.ok.inj h
        simp only [Split.all, List.foldlM_cons, List.foldlM_nil, Option.bind_eq_bind,
          Option.bind_eq_some_iff, Option.pure_def, Option.some.injEq] at hfilled
        obtain ⟨a, ha, b, hb, c, hc, rfl⟩ := hfilled
        exact ⟨start, a, b, hstart, ha, hb, hc⟩
      · cases h

theorem splitSizes_spec {size : ℕ} {config : DatasetConfig α} {sizes : PerSplit ℕ}
    (h : splitSizes size config = .ok sizes) :
    size ≠ 0 ∧ ∀ split, config.minPerSplit ≤ sizes.get split := by
  obtain ⟨hsize, start, a, b, -, ha, hb, hc⟩ := exists_fills_of_splitSizes h
  obtain ⟨htrain, -⟩ := fillSplit_spec ha
  obtain ⟨hvalidation, hb⟩ := fillSplit_spec hb
  obtain ⟨htest, hc⟩ := fillSplit_spec hc
  have h1 : config.minPerSplit ≤ a.get .train := by omega
  have h2 : config.minPerSplit ≤ b.get .validation := by omega
  have h3 : config.minPerSplit ≤ sizes.get .test := by omega
  refine ⟨hsize, fun split ↦ ?_⟩
  cases split with
  | train => exact hc .train (by decide) (hb .train (by decide) h1)
  | validation => exact hc .validation (by decide) h2
  | test => exact h3

variable [RandomSource σ]

theorem exists_train_assignSplits {drafts : List Draft} {sizes : PerSplit ℕ}
    (hdrafts : drafts ≠ []) (hsizes : sizes.train ≠ 0) (source : σ) :
    ∃ case ∈ (assignSplits drafts sizes source).1, case.split = .train := by
  unfold assignSplits
  dsimp only
  generalize hdraftCases : drafts.zipIdx.map _ = cases
  have hlength : (RandomSource.shuffle cases source).1.length = drafts.length := by
    rw [(RandomSource.shuffle_perm cases source).length_eq, ← hdraftCases, List.length_map,
      List.length_zipIdx]
  obtain ⟨case, rest, hcases⟩ : ∃ case rest, (RandomSource.shuffle cases source).1 =
      case :: rest := by
    refine List.exists_cons_of_ne_nil fun hnil ↦ hdrafts ?_
    rw [hnil] at hlength
    exact List.length_eq_zero_iff.mp hlength.symm
  have hlabel : sizes.labelAt 0 = .train := if_pos (Nat.pos_of_ne_zero hsizes)
  refine ⟨{ case with split := sizes.labelAt 0 }, ?_, hlabel⟩
  rw [hcases, List.mapIdx_cons]
  exact List.mem_cons_self

theorem map_assignSplits_perm {β : Type} {view : Case → β}
    (hview : ∀ (case : Case) split, view { case with split } = view case) (drafts : List Draft)
    (sizes : PerSplit ℕ) (source : σ) :
    ((assignSplits drafts sizes source).1.map view).Perm
      (drafts.zipIdx.map fun (draft, index) ↦ view (draft.toCase index)) := by
  unfold assignSplits
  dsimp only
  generalize hcases : drafts.zipIdx.map _ = cases
  have hperm := RandomSource.shuffle_perm cases source
  generalize (RandomSource.shuffle cases source).1 = shuffled at hperm ⊢
  have hlabeled : (shuffled.mapIdx fun index case ↦
      { case with split := sizes.labelAt index }).map view = shuffled.map view := by
    calc (shuffled.mapIdx fun index case ↦ { case with split := sizes.labelAt index }).map view
        = shuffled.zipIdx.map fun (case, _) ↦ view case := by
          rw [List.mapIdx_eq_zipIdx_map, List.map_map]
          simp only [Function.comp_def, hview]
      _ = (shuffled.zipIdx.map Prod.fst).map view := by
          rw [List.map_map]
          rfl
      _ = shuffled.map view := by rw [List.zipIdx_map_fst]
  rw [hlabeled]
  refine (hperm.map view).trans ?_
  rw [← hcases, List.map_map]
  exact .refl _

theorem hardNegativeTarget_le_half (config : DatasetConfig α) :
    hardNegativeTarget config ≤ config.targetSize / 2 := by
  unfold hardNegativeTarget
  split
  · exact Nat.min_le_right ..
  · exact Nat.zero_le _

theorem hardNegativeTarget_le (config : DatasetConfig α) :
    hardNegativeTarget config ≤ config.targetSize :=
  Nat.le_trans (hardNegativeTarget_le_half config) (Nat.div_le_self ..)

/-- What a synthesized dataset is made of: drafts, as many as are wanted, the negative ones last. -/
theorem exists_of_synthesize {task : String} {schema : Schema} {config : DatasetConfig α}
    {source : σ} {dataset : Dataset α} (h : synthesize task schema config source = .ok dataset) :
    ∃ plans negatives positives sizes,
      intentPlans schema (inferIntents task schema) = .ok plans ∧
      synthesizeNegatives schema (inferIntents task schema) (hardNegativeTarget config) source =
        negatives ∧
      synthesizePositives schema config.paraphrase plans
        (config.targetSize - negatives.1.drafts.length) negatives.1 negatives.2 = positives ∧
      let drafts := clipPreservingCoverage positives.1.drafts
        (config.targetSize - negatives.1.drafts.length) ++ negatives.1.drafts
      splitSizes drafts.length config = .ok sizes ∧ config.targetSize ≤ drafts.length ∧
      let cases := (assignSplits drafts sizes positives.2).1
      dataset = ⟨cases, reportCases schema config.targetSize (inferIntents task schema)
        positives.1 cases⟩ := by
  unfold synthesize at h
  by_cases hempty : schema.entities.isEmpty ∧ schema.relations.isEmpty
  · simp [hempty, bind_eq_ok_iff] at h
  · simp only [if_neg hempty] at h
    obtain ⟨plans, hplans, h⟩ := bind_eq_ok_iff.mp h
    obtain ⟨sizes, hsizes, h⟩ := bind_eq_ok_iff.mp h
    refine ⟨plans, _, _, sizes, mapError_eq_ok_iff.mp hplans, rfl, rfl, hsizes, ?_⟩
    split at h
    · cases h
    · next henough => exact ⟨Nat.le_of_not_lt henough, (Except.ok.inj h).symm⟩

theorem train_ne_nil_of_synthesize {task : String} {schema : Schema} {config : DatasetConfig α}
    {source : σ} {dataset : Dataset α} (h : synthesize task schema config source = .ok dataset)
    (hminimum : config.minPerSplit ≠ 0) : dataset.ofSplit .train ≠ [] := by
  obtain ⟨plans, negatives, positives, sizes, -, -, -, hsizes, -, rfl⟩ := exists_of_synthesize h
  obtain ⟨hlength, hminimums⟩ := splitSizes_spec hsizes
  have htrain : sizes.train ≠ 0 := by
    have hle : config.minPerSplit ≤ sizes.train := hminimums .train
    omega
  obtain ⟨case, hcase, hsplit⟩ :=
    exists_train_assignSplits (List.length_eq_zero_iff.not.mp hlength) htrain positives.2
  exact List.ne_nil_of_mem (List.mem_filter.mpr ⟨hcase, by simp [hsplit]⟩)

end WorkflowSearch
