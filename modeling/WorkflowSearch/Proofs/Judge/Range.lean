import Mathlib.Algebra.Order.Field.Basic
import Mathlib.Tactic.SplitIfs
import WorkflowSearch.Judge.Rubric
import WorkflowSearch.Proofs.Judge.Aggregate
import WorkflowSearch.Proofs.Judge.Ensemble
import WorkflowSearch.Proofs.Judge.Reply

namespace WorkflowSearch

section Clamping

variable {α : Type} [Scalar α]

def Judge.Clamps (judge : Judge α) : Prop :=
  ∀ request score, judge.ask request = .ok score →
    ∃ value, score.value = Scalar.clamp 0 1 value

/-- The judges that the source makes are of the kind that was asked for, and clamp their scores. -/
def JudgeSource.Sound (source : JudgeSource α) : Prop :=
  ∀ kind config judge, source kind config = .ok judge → judge.kind = kind ∧ judge.Clamps

theorem Judge.rule_clamps : (Judge.rule : Judge α).Clamps := by
  rintro request score h
  obtain rfl := Except.ok.inj h
  unfold JudgeRequest.ruleScore
  dsimp only
  split_ifs <;> exact ⟨_, rfl⟩

theorem Judge.heuristic_clamps : (Judge.heuristic : Judge α).Clamps := by
  rintro request score h
  obtain rfl := Except.ok.inj h
  unfold JudgeRequest.overlapScore
  split_ifs <;> exact ⟨_, rfl⟩

end Clamping

theorem Rubric.readOutcome_clamps {request : Http.Request} {timeoutMs : ℕ} {outcome : Http.Outcome}
    {score : Score Double} (h : readOutcome request timeoutMs outcome = .ok score) :
    ∃ value, score.value = Scalar.clamp 0 1 value := by
  unfold readOutcome at h
  split at h
  case h_4 =>
    split at h
    · obtain ⟨value, -, hvalue⟩ := exists_finite_of_readVerdict h
      exact ⟨value, hvalue⟩
    · cases h
  all_goals cases h

/-- The judges over a network are sound, whatever the network answers. -/
theorem judgesOver_sound (network : Http.Network) : (judgesOver network).Sound := by
  intro kind config judge h
  cases kind with
  | rule =>
    obtain rfl := Except.ok.inj h
    exact ⟨rfl, Judge.rule_clamps⟩
  | heuristic =>
    obtain rfl := Except.ok.inj h
    exact ⟨rfl, Judge.heuristic_clamps⟩
  | rubric =>
    rw [judgesOver] at h
    split at h
    · cases h
    · obtain rfl := Except.ok.inj h
      exact ⟨rfl, fun _ _ ↦ Rubric.readOutcome_clamps⟩

namespace Ensemble

structure Sound {α : Type} [Scalar α] (ensemble : Ensemble α) : Prop where
  clamps : ∀ judge ∈ ensemble.judges, judge.Clamps
  weights : ∀ judge ∈ ensemble.judges, 0 < ensemble.weights.weight judge.kind

variable {α : Type}

theorem exists_judge_of_mem_votes {ensemble : Ensemble α} {request : JudgeRequest}
    {vote : JudgeVote α} (h : vote ∈ ensemble.votes request) :
    ∃ judge ∈ ensemble.judges, judge.Casts request vote := by
  obtain ⟨judge, hjudge, hvote⟩ := List.mem_filterMap.mp h
  cases hask : judge.ask request with
  | error error => simp [hask] at hvote
  | ok score =>
    rw [hask] at hvote
    exact ⟨judge, hjudge, score, hask, (Option.some.inj hvote).symm⟩

variable [RootedScalar α]

theorem Sound.verdict_inRange {ensemble : Ensemble α} (h : ensemble.Sound) {request : JudgeRequest}
    {verdict : Verdict α} (hverdict : ensemble.verdict request = .ok verdict) :
    verdict.aggregate.InRange := by
  have hweights : ∀ vote ∈ ensemble.votes request, 0 < ensemble.weights.weight vote.judge := by
    intro vote hvote
    obtain ⟨judge, hjudge, score, -, rfl⟩ := exists_judge_of_mem_votes hvote
    exact h.weights judge hjudge
  have hscores : ∀ vote ∈ ensemble.votes request, 0 ≤ vote.score ∧ vote.score ≤ 1 := by
    intro vote hvote
    obtain ⟨judge, hjudge, score, hask, rfl⟩ := exists_judge_of_mem_votes hvote
    obtain ⟨value, hvalue⟩ := h.clamps judge hjudge request score hask
    exact hvalue ▸ ExactScalar.clamp_bounds value
  by_cases hsome : ensemble.votes request = []
  · have hnone : Aggregate.ofVotes? (ensemble.votes request) ensemble.weights = none :=
      Aggregate.ofVotes?_eq_none_iff.mpr (.inl hsome)
    rw [verdict_of_none hnone] at hverdict
    cases hverdict
  · obtain ⟨found, -, haggregate, hok, -⟩ :=
      verdict_of_some (Aggregate.ofVotes?_eq_unclamped hsome hweights hscores)
    rw [hok] at hverdict
    obtain rfl := Except.ok.inj hverdict
    rw [haggregate]
    exact Aggregate.unclamped_inRange hsome hweights hscores

end Ensemble

end WorkflowSearch
