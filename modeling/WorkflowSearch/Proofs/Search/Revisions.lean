import Mathlib.Data.List.Nodup
import WorkflowSearch.Proofs.Search.Mutation
import WorkflowSearch.Proofs.Text.Collapse

namespace WorkflowSearch

variable {α : Type} [Scalar α]

section Sections

variable {strategy strategy' : RevisionStrategy} (reflection : Reflection) (task : String)

theorem words_draftedSection (h : strategy ∈ RevisionStrategy.drafting) :
    ∃ rest, Text.words (strategy.draftedSection reflection task) =
      strategy.openingWord :: rest := by
  have hopening : ∀ s ∈ RevisionStrategy.drafting,
      Text.words ("\n\n" ++ s.openingWord) = [s.openingWord] := by
    decide +kernel
  obtain ⟨rest, hrest⟩ := (RevisionStrategy.begins_draftedSection h reflection task).words_append
  exact ⟨rest, by rw [hrest, hopening strategy h, List.singleton_append]⟩

theorem words_append_draftedSection (h : strategy ∈ RevisionStrategy.drafting) (base : String) :
    Text.words (base ++ strategy.draftedSection reflection task) =
      Text.words base ++ Text.words (strategy.draftedSection reflection task) := by
  have hbreak : Text.isBlank '\n' = true := by decide +kernel
  obtain ⟨rest, hrest⟩ := sectionMarker_prefix_draftedSection h reflection task
  exact Text.words_append_of_isBlank hrest.symm hbreak base

theorem strategy_eq_of_collapse_eq {base : String} (h : strategy ∈ RevisionStrategy.drafting)
    (h' : strategy' ∈ RevisionStrategy.drafting)
    (hsame : Text.collapse (base ++ strategy.draftedSection reflection task) =
      Text.collapse (base ++ strategy'.draftedSection reflection task)) : strategy = strategy' := by
  -- Behind the same base, the sections of two strategies differ in their first words.
  have hopening : ∀ s ∈ RevisionStrategy.drafting, ∀ s' ∈ RevisionStrategy.drafting,
      s.openingWord = s'.openingWord → s = s' := by
    decide
  obtain ⟨rest, hrest⟩ := words_draftedSection reflection task h
  obtain ⟨rest', hrest'⟩ := words_draftedSection reflection task h'
  rw [Text.collapse_eq_iff, words_append_draftedSection reflection task h,
    words_append_draftedSection reflection task h', List.append_cancel_left_eq, hrest, hrest'] at hsame
  exact hopening strategy h strategy' h' (List.cons.inj hsame).1

end Sections

section Drafts

variable (limit : ℕ) (prompt : String) (reflection : Reflection) (task : String)

theorem collapse_promptDrafts_nodup :
    ((promptDrafts prompt reflection task).map (Text.collapse ·.prompt)).Nodup := by
  have hdrafting : RevisionStrategy.drafting.Nodup := by decide
  simp only [promptDrafts, List.map_map, Function.comp_def]
  refine hdrafting.map_on fun _ h _ h' hsame ↦ ?_
  exact strategy_eq_of_collapse_eq reflection task h h' hsame

theorem keepDistinct_eq_take {seen : List String} {room : ℕ} {candidates : List PromptCandidate}
    (h : (candidates.map (Text.collapse ·.prompt)).Nodup) :
    keepDistinct seen room candidates =
      (candidates.filter (Text.collapse ·.prompt ∉ seen)).take room := by
  fun_induction keepDistinct seen room candidates with
  | case1 => rw [List.take_zero]
  | case2 => simp
  | case3 seen room candidate rest key hseen ih =>
    rw [List.map_cons, List.nodup_cons] at h
    have hdropped : ¬ Text.collapse candidate.prompt ∉ seen := by simpa using hseen
    rw [ih h.2, List.filter_cons_of_neg (by simpa using hdropped)]
  | case4 seen room candidate rest key hseen ih =>
    rw [List.map_cons, List.nodup_cons] at h
    have hkept : Text.collapse candidate.prompt ∉ seen := by simpa using hseen
    have hrest : rest.filter (Text.collapse ·.prompt ∉ key :: seen) =
        rest.filter (Text.collapse ·.prompt ∉ seen) := by
      refine List.filter_congr fun other hother ↦ ?_
      have hnew : Text.collapse other.prompt ≠ key :=
        fun hsame ↦ h.1 (List.mem_map.mpr ⟨other, hother, hsame⟩)
      simp [hnew]
    rw [ih h.2, hrest, List.filter_cons_of_pos (by simpa using hkept), List.take_succ_cons]

theorem promptCandidates_eq_take :
    promptCandidates limit prompt reflection task =
      ((promptDrafts prompt reflection task).filter
        (Text.collapse ·.prompt ≠ Text.collapse prompt)).take (max limit 2) := by
  rw [promptCandidates, keepDistinct_eq_take (collapse_promptDrafts_nodup prompt reflection task)]
  simp only [List.mem_singleton, ne_eq]

theorem promptCandidates_sublist :
    (promptCandidates limit prompt reflection task).Sublist
      (promptDrafts prompt reflection task) :=
  keepDistinct_sublist _ _ _

variable {limit prompt reflection task} in
theorem collapse_ne_of_mem_promptCandidates {candidate : PromptCandidate}
    (h : candidate ∈ promptCandidates limit prompt reflection task) :
    Text.collapse candidate.prompt ≠ Text.collapse prompt := by
  rw [promptCandidates_eq_take] at h
  exact of_decide_eq_true (List.mem_filter.mp (List.mem_of_mem_take h)).2

variable {limit prompt reflection task} in
theorem mem_promptCandidates {strategy : RevisionStrategy} (hlimit : 4 ≤ limit)
    (hstrategy : strategy ∈ RevisionStrategy.drafting)
    (hnew : Text.collapse (basePrompt prompt ++ strategy.draftedSection reflection task) ≠
      Text.collapse prompt) :
    ⟨strategy, basePrompt prompt ++ strategy.draftedSection reflection task⟩ ∈
      promptCandidates limit prompt reflection task := by
  have hroom : ((promptDrafts prompt reflection task).filter
      (Text.collapse ·.prompt ≠ Text.collapse prompt)).length ≤ max limit 2 :=
    (List.length_filter_le _ _).trans (hlimit.trans (Nat.le_max_left limit 2))
  rw [promptCandidates_eq_take, List.take_of_length_le hroom, List.mem_filter]
  exact ⟨List.mem_map_of_mem hstrategy, decide_eq_true hnew⟩

theorem length_promptCandidates :
    (promptCandidates limit prompt reflection task).length = min (max limit 2)
      (4 - if ∃ draft ∈ promptDrafts prompt reflection task,
        Text.collapse draft.prompt = Text.collapse prompt then 1 else 0) := by
  have hdrafts : (promptDrafts prompt reflection task).length = 4 := List.length_map _
  rw [promptCandidates_eq_take, List.length_take,
    length_filter_key_ne (collapse_promptDrafts_nodup prompt reflection task), hdrafts]

theorem promptCandidates_ne_nil : promptCandidates limit prompt reflection task ≠ [] := by
  rw [← List.length_pos_iff, length_promptCandidates]
  split <;> omega

end Drafts

namespace RevisionRequest

variable (request : RevisionRequest) (limit recorded : ℕ)

theorem candidates_eq :
    request.candidates limit =
      promptCandidates limit request.prompt request.reflection request.task := by
  unfold candidates
  split
  · next hnone => exact absurd hnone (promptCandidates_ne_nil _ _ _ _)
  · rfl

variable {request limit recorded}

theorem exists_of_mem_variants {variant : PromptVariant α}
    (h : variant ∈ request.variants limit recorded) :
    ∃ candidate ∈ promptCandidates limit request.prompt request.reflection request.task,
      variant.strategy = candidate.strategy ∧ variant.prompt = candidate.prompt := by
  obtain ⟨⟨⟨candidate, score⟩, index⟩, hindexed, rfl⟩ := List.mem_map.mp h
  obtain ⟨candidate', hcandidate, heq⟩ := List.mem_map.mp (List.fst_mem_of_mem_zipIdx hindexed)
  obtain ⟨rfl, -⟩ := Prod.mk.inj heq
  rw [candidates_eq] at hcandidate
  exact ⟨_, hcandidate, rfl, rfl⟩

theorem prompt_ne_of_mem_variants {variant : PromptVariant α}
    (h : variant ∈ request.variants limit recorded) : variant.prompt ≠ request.prompt := by
  obtain ⟨candidate, hcandidate, -, hprompt⟩ := exists_of_mem_variants h
  rw [hprompt]
  exact fun hsame ↦ collapse_ne_of_mem_promptCandidates hcandidate (congrArg Text.collapse hsame)

variable (α request limit recorded)

/-- The candidates say different things, and none says what the prompt says. They are the four drafts
without the one that repeats the prompt, if there is one, up to the limit. So there are candidates
whatever the prompt, one of them is chosen, and the prompt is never kept as it is, neither among the
candidates nor for want of one that is chosen. -/
theorem revises_prompt :
    let drafts := promptDrafts request.prompt request.reflection request.task
    let candidates := promptCandidates limit request.prompt request.reflection request.task
    let repeated := if ∃ draft ∈ drafts,
      Text.collapse draft.prompt = Text.collapse request.prompt then 1 else 0
    (candidates.map (Text.collapse ·.prompt)).Nodup ∧
      (∀ candidate ∈ candidates,
        Text.collapse candidate.prompt ≠ Text.collapse request.prompt) ∧
      candidates.Sublist drafts ∧ candidates.length = min (max limit 2) (4 - repeated) ∧
      request.candidates limit = candidates ∧
      ∃ chosen, (request.variants limit recorded : List (PromptVariant α)).find? (·.selected) =
          some chosen ∧
        (∀ recorded', request.choose recorded' (request.variants limit recorded) = chosen) ∧
        (∃ candidate ∈ candidates,
          chosen.strategy = candidate.strategy ∧ chosen.prompt = candidate.prompt) ∧
        chosen.strategy ≠ .unchanged ∧
        Text.collapse chosen.prompt ≠ Text.collapse request.prompt := by
  dsimp only
  have hsublist := promptCandidates_sublist limit request.prompt request.reflection request.task
  have hkeys := hsublist.map fun candidate ↦ Text.collapse candidate.prompt
  have hnodup := collapse_promptDrafts_nodup request.prompt request.reflection request.task
  have hlength := length_promptCandidates limit request.prompt request.reflection request.task
  refine ⟨hkeys.nodup hnodup, fun candidate hcandidate ↦ ?_, hsublist, hlength,
    request.candidates_eq limit, ?_⟩
  · exact collapse_ne_of_mem_promptCandidates hcandidate
  obtain ⟨chosen, hchosen⟩ := request.exists_selected (α := α) limit recorded
  obtain ⟨candidate, hcandidate, hstrategy, hprompt⟩ :=
    exists_of_mem_variants (List.mem_of_find?_eq_some hchosen)
  refine ⟨chosen, hchosen, fun _ ↦ choose_eq hchosen,
    ⟨candidate, hcandidate, hstrategy, hprompt⟩, ?_, ?_⟩
  · have hdrafting : RevisionStrategy.unchanged ∉ RevisionStrategy.drafting := by decide
    rw [hstrategy]
    exact fun hnone ↦ hdrafting (hnone ▸ (of_mem_promptCandidates hcandidate).1)
  · rw [hprompt]
    exact collapse_ne_of_mem_promptCandidates hcandidate

end RevisionRequest

section Rows

structure RevisionStep where
  limit : ℕ
  reflection : Reflection
  task : String

/-- The prompts to which revisions in a row may lead, each of them to any of its candidates. -/
inductive RevisedBy (prompt : String) : List RevisionStep → String → Prop
  | nil : RevisedBy prompt [] prompt
  | concat {steps : List RevisionStep} {step : RevisionStep} {current revised : String}
      {strategy : RevisionStrategy} (before : RevisedBy prompt steps current)
      (offered : ⟨strategy, revised⟩ ∈
        promptCandidates step.limit current step.reflection step.task) :
      RevisedBy prompt (steps ++ [step]) revised

variable {prompt current : String} {steps : List RevisionStep}

theorem RevisedBy.basePrompt_eq (h : RevisedBy prompt steps current) :
    basePrompt current = basePrompt prompt := by
  induction h with
  | nil => rfl
  | @concat steps step current revised strategy before offered ih =>
    obtain ⟨hstrategy, hrevised⟩ := of_mem_promptCandidates offered
    dsimp only at hstrategy hrevised
    rw [hrevised, (isBasePrompt_basePrompt current).basePrompt_append
      (isSections_draftedSection hstrategy step.reflection step.task), ih]

/-- Whatever the feedback and the tasks, markers of sections among them, revisions in a row keep the
base of a prompt, and after the last of them nothing but the section that it wrote stands behind it.
-/
theorem RevisedBy.sections_replaced (h : RevisedBy prompt steps current) :
    basePrompt current = basePrompt prompt ∧
      ∀ last ∈ steps.getLast?, ∃! strategy, strategy ∈ RevisionStrategy.drafting ∧
        current = basePrompt prompt ++ strategy.draftedSection last.reflection last.task ∧
        learnedSections current = strategy.draftedSection last.reflection last.task := by
  refine ⟨h.basePrompt_eq, ?_⟩
  cases h with
  | nil => simp
  | @concat steps step before current strategy hbefore offered =>
    intro last hlast
    obtain rfl : step = last := by simpa using hlast
    obtain ⟨hstrategy, hcurrent⟩ := of_mem_promptCandidates offered
    dsimp only at hstrategy hcurrent
    rw [hbefore.basePrompt_eq] at hcurrent
    have hlearned := (isBasePrompt_basePrompt prompt).learnedSections_append
      (isSections_draftedSection hstrategy step.reflection step.task)
    refine ⟨strategy, ⟨hstrategy, hcurrent, hcurrent ▸ hlearned⟩, ?_⟩
    rintro other ⟨hother, hsame, -⟩
    exact strategy_eq_of_collapse_eq step.reflection step.task hother hstrategy
      (congrArg Text.collapse (hsame.symm.trans hcurrent))

theorem RevisedBy.draft (h : RevisedBy prompt steps current) (step : RevisionStep)
    (strategy : RevisionStrategy) (hlimit : 4 ≤ step.limit)
    (hstrategy : strategy ∈ RevisionStrategy.drafting)
    (hnew : Text.collapse (basePrompt prompt ++
        strategy.draftedSection step.reflection step.task) ≠ Text.collapse current) :
    RevisedBy prompt (steps ++ [step])
      (basePrompt prompt ++ strategy.draftedSection step.reflection step.task) := by
  rw [← h.basePrompt_eq] at hnew ⊢
  exact .concat h (mem_promptCandidates hlimit hstrategy hnew)

/-- The section for a task that contains a marker gives way to that for another task. -/
theorem markers_replaced :
    let prompt := "Answer.\n\n[Notes] none"
    let steady : Reflection := ⟨0, [], none, 0, [], [], ""⟩
    let steps : List RevisionStep := [⟨4, steady, "find\n\n[accounts]"⟩, ⟨4, steady, "rank"⟩]
    let sections := "\n\n[Task Intent]\nrank\n" ++
      "[Output Discipline]\n1) Answer\n2) Evidence\n3) Assumptions"
    RevisedBy prompt steps (basePrompt prompt ++ sections) ∧ basePrompt prompt = "Answer." ∧
      basePrompt (basePrompt prompt ++ sections) = "Answer." ∧
      learnedSections (basePrompt prompt ++ sections) = sections := by
  intro prompt steady steps sections
  have hplain : basePrompt prompt = "Answer." := by decide +kernel
  have hnone : RevisedBy prompt [] prompt := .nil
  have hfirst := hnone.draft ⟨4, steady, "find\n\n[accounts]"⟩ .taskIntent le_rfl (by decide)
    (by decide +kernel)
  have hrevised : RevisedBy prompt steps (basePrompt prompt ++ sections) :=
    hfirst.draft ⟨4, steady, "rank"⟩ .taskIntent le_rfl (by decide) (by decide +kernel)
  obtain ⟨hbase, hlast⟩ := hrevised.sections_replaced
  obtain ⟨strategy, ⟨-, hcurrent, hlearned⟩, -⟩ := hlast _ rfl
  exact ⟨hrevised, hplain, hbase.trans hplain,
    hlearned.trans ((String.append_right_inj _).mp hcurrent).symm⟩

end Rows

end WorkflowSearch
