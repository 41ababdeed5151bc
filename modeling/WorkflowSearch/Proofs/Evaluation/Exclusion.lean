import WorkflowSearch.Proofs.Search.Best
import WorkflowSearch.Evaluation.Summary

namespace WorkflowSearch

def scoredOutcomes {α : Type} (outcomes : List (CaseOutcome α)) : List (CaseOutcome α) :=
  outcomes.filter (!·.isInvalid)

theorem filterMap_execution?_scoredOutcomes {α : Type} (outcomes : List (CaseOutcome α)) :
    (scoredOutcomes outcomes).filterMap CaseOutcome.execution? =
      outcomes.filterMap CaseOutcome.execution? := by
  induction outcomes with
  | nil => rfl
  | cons outcome outcomes ih =>
    cases outcome with
    | scored execution => exact congrArg (execution :: ·) ih
    | invalid case => exact ih

theorem summarize_eq_scored {α : Type} [Scalar α] (blueprint : Blueprint) (split : Split)
    (outcomes : List (CaseOutcome α)) (weights : ObjectiveWeights α)
    (invalidFractionThreshold lowScoreThreshold : α) :
    summarize blueprint split outcomes weights invalidFractionThreshold lowScoreThreshold =
      { summarize blueprint split (scoredOutcomes outcomes) weights invalidFractionThreshold
          lowScoreThreshold with
        caseCount := outcomes.length
        invalidCount := outcomes.countP CaseOutcome.isInvalid
        invalidFraction := share (outcomes.countP CaseOutcome.isInvalid) outcomes.length
        degraded := decide (invalidFractionThreshold <
          (share (outcomes.countP CaseOutcome.isInvalid) outcomes.length : α))
        outcomes } := by
  simp only [summarize, filterMap_execution?_scoredOutcomes]

theorem lt_share_iff {β : Type} [ExactScalar β] {a : β} (ha : 0 ≤ a) (part whole : ℕ) :
    a < share part whole ↔ 0 < whole ∧ a < (part : β) / (whole : β) := by
  unfold share
  obtain rfl | hwhole := Nat.eq_zero_or_pos whole
  · rw [if_pos rfl]
    exact ⟨fun h ↦ absurd h (not_lt.mpr ha), fun h ↦ absurd h.1 (lt_irrefl 0)⟩
  · rw [if_neg hwhole.ne']
    exact ⟨fun h ↦ ⟨hwhole, h⟩, And.right⟩

/-- Outcomes with the same scored ones in the same order, wherever invalid ones stand among them,
have summaries that differ in nothing but the counts and the outcomes themselves. The counts are
those of the outcomes, and over exact numbers an evaluation is degraded exactly if it has cases and
more than the allowed part of them is invalid. -/
theorem summarize_excludes_invalid {α β : Type} [Scalar α] [ExactScalar β] (blueprint : Blueprint)
    (split : Split) :
    (∀ (outcomes outcomes' : List (CaseOutcome α)) (weights : ObjectiveWeights α)
        (invalidFractionThreshold lowScoreThreshold : α),
      let summary := summarize blueprint split outcomes weights invalidFractionThreshold
        lowScoreThreshold
      let summary' := summarize blueprint split outcomes' weights invalidFractionThreshold
        lowScoreThreshold
      (summary.caseCount = outcomes.length ∧
        summary.invalidCount = (outcomes.filter (·.isInvalid)).length) ∧
      (scoredOutcomes outcomes = scoredOutcomes outcomes' →
        summary' =
          { summary with
            caseCount := summary'.caseCount
            invalidCount := summary'.invalidCount
            invalidFraction := summary'.invalidFraction
            degraded := summary'.degraded
            outcomes := summary'.outcomes })) ∧
    ∀ (outcomes : List (CaseOutcome β)) (weights : ObjectiveWeights β)
        (invalidFractionThreshold lowScoreThreshold : β), 0 ≤ invalidFractionThreshold →
      let summary := summarize blueprint split outcomes weights invalidFractionThreshold
        lowScoreThreshold
      (summary.degraded = true ↔ 0 < summary.caseCount ∧
        invalidFractionThreshold < (summary.invalidCount : β) / (summary.caseCount : β)) := by
  refine ⟨?_, ?_⟩
  · intro outcomes outcomes' weights invalidFractionThreshold lowScoreThreshold summary summary'
    refine ⟨⟨rfl, List.countP_eq_length_filter⟩, fun hscored ↦ ?_⟩
    dsimp only [summary, summary']
    rw [summarize_eq_scored blueprint split outcomes, summarize_eq_scored blueprint split outcomes',
      hscored]
  · intro outcomes weights invalidFractionThreshold lowScoreThreshold hthreshold summary
    rw [← lt_share_iff hthreshold]
    exact decide_eq_true_iff

/-- With one invalid case more, the mean stays and the evaluation becomes degraded. -/
theorem invalidCases_excluded :
    let scored : CaseOutcome ℚ := .scored ⟨"case-0000", .train, false, "Find each Person",
      ⟨"query: Person", 50, 1 / 100⟩, [], 3 / 4, 7 / 8, 1, "rule: full", 1⟩
    let invalid : CaseOutcome ℚ :=
      .invalid ⟨"case-0001", .train, "timeout", "runtime call timed out after 30000ms", 3⟩
    let outcomes := [scored, invalid]
    let outcomes' := [invalid, scored, invalid]
    let summary := summarize simulatedRoot .train outcomes .default (1 / 2) (3 / 5)
    let summary' := summarize simulatedRoot .train outcomes' .default (1 / 2) (3 / 5)
    scoredOutcomes outcomes = scoredOutcomes outcomes' ∧ (0 : ℚ) ≤ 1 / 2 ∧
      summary'.meanScore = summary.meanScore ∧ summary'.objective = summary.objective ∧
      summary.degraded = false ∧ summary'.degraded = true := by
  intro scored invalid outcomes outcomes' summary summary'
  obtain ⟨hsame, hdegraded⟩ := @summarize_excludes_invalid ℚ ℚ _ _ simulatedRoot .train
  have hscored : scoredOutcomes outcomes = scoredOutcomes outcomes' := rfl
  have hthreshold : (0 : ℚ) ≤ 1 / 2 := by norm_num
  have hsummary := (hsame outcomes outcomes' .default (1 / 2) (3 / 5)).2 hscored
  refine ⟨hscored, hthreshold, congrArg (·.meanScore) hsummary, congrArg (·.objective) hsummary,
    ?_, ?_⟩
  · rw [Bool.eq_false_iff]
    intro hmany
    have hlt : (1 : ℚ) / 2 < (1 : ℕ) / (2 : ℕ) :=
      ((hdegraded outcomes .default (1 / 2) (3 / 5) hthreshold).mp hmany).2
    norm_num at hlt
  · have hlt : (1 : ℚ) / 2 < (2 : ℕ) / (3 : ℕ) := by norm_num
    exact (hdegraded outcomes' .default (1 / 2) (3 / 5) hthreshold).mpr ⟨by decide, hlt⟩

end WorkflowSearch
