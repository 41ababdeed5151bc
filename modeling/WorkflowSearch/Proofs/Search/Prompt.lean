import Mathlib.Data.List.Basic
import WorkflowSearch.Proofs.Text.Blank
import WorkflowSearch.Proofs.Text.Search
import WorkflowSearch.Proofs.Text.Words
import WorkflowSearch.Search.Prompt

namespace WorkflowSearch

variable {α : Type} [Scalar α]

structure IsBasePrompt (text : String) : Prop where
  trimmed : Text.trimChars text.toList = text.toList
  plain : ¬ sectionMarker <:+: text.toList

/-- What may stand behind a base: nothing, or a text that begins with a marker. -/
def IsSections (text : String) : Prop :=
  text = "" ∨ sectionMarker <+: text.toList

theorem isSections_learnedSections (prompt : String) : IsSections (learnedSections prompt) := by
  unfold learnedSections IsSections
  cases hfound : Text.findFrom? sectionMarker prompt.toList with
  | none => exact .inl rfl
  | some found =>
    right
    simpa using Text.prefix_of_findFrom? hfound

theorem exists_before_sections (prompt : String) :
    ∃ before, ¬ sectionMarker <:+: before ∧
      prompt.toList = before ++ (learnedSections prompt).toList ∧
      (basePrompt prompt).toList = Text.trimChars before := by
  cases hfound : Text.findFrom? sectionMarker prompt.toList with
  | none =>
    refine ⟨prompt.toList, Text.findFrom?_eq_none_iff.mp hfound, ?_, ?_⟩
    · simp [learnedSections, hfound]
    · simp [basePrompt, learnedSections, hfound]
  | some found =>
    obtain ⟨before, hbefore⟩ := Text.suffix_of_findFrom? hfound
    have hlearned : (learnedSections prompt).toList = found := by simp [learnedSections, hfound]
    refine ⟨before, ?_, ?_, ?_⟩
    · rw [← hbefore] at hfound
      exact Text.not_infix_of_findFrom?_append (by simp [sectionMarker]) hfound
    · rw [hlearned, hbefore]
    · rw [basePrompt, hlearned, ← hbefore]
      simp

theorem isBasePrompt_basePrompt (prompt : String) : IsBasePrompt (basePrompt prompt) := by
  obtain ⟨before, hplain, -, hbase⟩ := exists_before_sections prompt
  refine ⟨?_, ?_⟩
  · rw [hbase, Text.trimChars_trimChars]
  · rw [hbase]
    exact fun hmarker ↦ hplain (hmarker.trans (Text.trimChars_infix before))

theorem findFrom?_sectionMarker_append {base sections : List Char}
    (hplain : ¬ sectionMarker <:+: base) (hlast : base.getLast? ≠ some '\n')
    (hsections : sectionMarker <+: sections) :
    Text.findFrom? sectionMarker (base ++ sections) = some sections := by
  induction base with
  | nil =>
    obtain ⟨rest, rfl⟩ := hsections
    rfl
  | cons c base ih =>
    rw [List.infix_cons_iff, not_or] at hplain
    obtain ⟨hbegins, hplain⟩ := hplain
    -- The marker begins with an end of line, which the base does not end with.
    have hnot : ¬ sectionMarker <+: c :: base ++ sections := by
      intro hmarker
      match base with
      | [] =>
        have hc := (List.cons_prefix_cons.mp hmarker).1
        exact hlast (by simp [← hc])
      | [d] =>
        have hd := (List.cons_prefix_cons.mp (List.cons_prefix_cons.mp hmarker).2).1
        exact hlast (by simp [← hd])
      | d :: e :: base => exact hbegins (by simpa [sectionMarker] using hmarker)
    have hlast' : base.getLast? ≠ some '\n' := by
      cases base with
      | nil => simp
      | cons d base => simpa using hlast
    rw [List.cons_append, Text.findFrom?, if_neg]
    · exact ih hplain hlast'
    · rwa [List.isPrefixOf_iff_prefix]

namespace IsBasePrompt

variable {base sections : String} (h : IsBasePrompt base)
include h

theorem learnedSections_append (hsections : IsSections sections) :
    learnedSections (base ++ sections) = sections := by
  obtain rfl | hsections := hsections
  · have hnone : Text.findFrom? sectionMarker base.toList = none :=
      Text.findFrom?_eq_none_iff.mpr h.plain
    simp [learnedSections, hnone]
  · have hlast : base.toList.getLast? ≠ some '\n' := by
      intro hlast
      have hblank : Text.isBlank '\n' = true := by decide +kernel
      rw [Text.not_isBlank_getLast h.trimmed hlast] at hblank
      cases hblank
    have hfound := findFrom?_sectionMarker_append h.plain hlast hsections
    simp [learnedSections, hfound]

theorem basePrompt_append (hsections : IsSections sections) :
    basePrompt (base ++ sections) = base := by
  rw [basePrompt, h.learnedSections_append hsections]
  simp [h.trimmed]

theorem basePrompt_eq : basePrompt base = base := by
  have hnone : IsSections "" := .inl rfl
  simpa using h.basePrompt_append hnone

end IsBasePrompt

namespace RevisionStrategy

def openingWord : RevisionStrategy → String
  | .refinedConstraints => "[Refined"
  | .taskIntent => "[Task"
  | .safetyChecks => "[Safety"
  | .failureRecovery => "[Failure"
  | .unchanged => ""

theorem begins_draftedSection {strategy : RevisionStrategy} (h : strategy ∈ drafting)
    (reflection : Reflection) (task : String) :
    Text.Begins ("\n\n" ++ strategy.openingWord) (strategy.draftedSection reflection task) := by
  -- What the reflection and the task are put into stands behind a fixed text.
  have hbegins {start text : String} (hstart : Text.Begins start text) := hstart.append
  simp only [drafting, List.mem_cons, List.not_mem_nil, or_false] at h
  obtain rfl | rfl | rfl | rfl := h
  · exact hbegins (hbegins (hbegins (by decide +kernel) _) _) _
  · exact hbegins (hbegins (by decide +kernel) _) _
  · exact hbegins (by decide +kernel) _
  · exact hbegins (by decide +kernel) _

end RevisionStrategy

theorem sectionMarker_prefix_draftedSection {strategy : RevisionStrategy}
    (h : strategy ∈ RevisionStrategy.drafting) (reflection : Reflection) (task : String) :
    sectionMarker <+: (strategy.draftedSection reflection task).toList := by
  have hopening : ∀ s ∈ RevisionStrategy.drafting,
      sectionMarker <+: ("\n\n" ++ s.openingWord).toList := by
    decide +kernel
  exact ((hopening strategy h).trans (List.prefix_append _ _)).trans
    (RevisionStrategy.begins_draftedSection h reflection task)

theorem isSections_draftedSection {strategy : RevisionStrategy}
    (h : strategy ∈ RevisionStrategy.drafting) (reflection : Reflection) (task : String) :
    IsSections (strategy.draftedSection reflection task) :=
  .inr (sectionMarker_prefix_draftedSection h reflection task)

theorem keepDistinct_sublist (seen : List String) (room : ℕ) (candidates : List PromptCandidate) :
    (keepDistinct seen room candidates).Sublist candidates := by
  fun_induction keepDistinct seen room candidates with
  | case1 => exact List.nil_sublist _
  | case2 => exact List.nil_sublist _
  | case3 seen room candidate rest key hseen ih => exact ih.cons candidate
  | case4 seen room candidate rest key hseen ih => exact ih.cons_cons candidate

theorem of_mem_promptCandidates {limit : ℕ} {prompt task : String} {reflection : Reflection}
    {candidate : PromptCandidate} (h : candidate ∈ promptCandidates limit prompt reflection task) :
    candidate.strategy ∈ RevisionStrategy.drafting ∧
      candidate.prompt =
        basePrompt prompt ++ candidate.strategy.draftedSection reflection task := by
  have hdraft := (keepDistinct_sublist _ _ _).subset h
  obtain ⟨strategy, hstrategy, rfl⟩ := List.mem_map.mp hdraft
  exact ⟨hstrategy, rfl⟩

/-- A prompt and what it may be revised to: itself, or its base with one new section. -/
def IsRevision (task before after : String) : Prop :=
  after = before ∨ ∃ strategy ∈ RevisionStrategy.drafting, ∃ reflection,
    after = basePrompt before ++ strategy.draftedSection reflection task

theorem RevisionRequest.isRevision_of_mem_variants {request : RevisionRequest}
    {limit recorded : ℕ} {variant : PromptVariant α} (h : variant ∈ request.variants limit recorded) :
    IsRevision request.task request.prompt variant.prompt := by
  obtain ⟨⟨⟨candidate, score⟩, index⟩, hindexed, rfl⟩ := List.mem_map.mp h
  obtain ⟨candidate', hcandidate, heq⟩ := List.mem_map.mp (List.fst_mem_of_mem_zipIdx hindexed)
  obtain ⟨rfl, -⟩ := Prod.mk.inj heq
  unfold candidates at hcandidate
  split at hcandidate
  · obtain rfl := List.mem_singleton.mp hcandidate
    exact .inl rfl
  · obtain ⟨hstrategy, hprompt⟩ := of_mem_promptCandidates hcandidate
    exact .inr ⟨_, hstrategy, request.reflection, hprompt⟩

namespace IsRevision

variable {task before after : String} (h : IsRevision task before after)
include h

theorem basePrompt_eq : basePrompt after = basePrompt before := by
  obtain rfl | ⟨strategy, hstrategy, reflection, rfl⟩ := h
  · rfl
  · exact (isBasePrompt_basePrompt before).basePrompt_append
      (isSections_draftedSection hstrategy reflection task)

theorem eq_append (hbefore : before = basePrompt before ++ learnedSections before) :
    after = basePrompt after ++ learnedSections after := by
  rw [h.basePrompt_eq]
  obtain rfl | ⟨strategy, hstrategy, reflection, rfl⟩ := h
  · exact hbefore
  · rw [(isBasePrompt_basePrompt before).learnedSections_append
      (isSections_draftedSection hstrategy reflection task)]

end IsRevision

end WorkflowSearch
