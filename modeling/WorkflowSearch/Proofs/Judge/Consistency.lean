import Mathlib.Algebra.Order.Field.Basic
import WorkflowSearch.Proofs.Judge.Lexical
import WorkflowSearch.Proofs.Text.Phrases

namespace WorkflowSearch

namespace JudgeRequest

section Rule

variable {α : Type} [Scalar α] {request : JudgeRequest}

def keywordScore (request : JudgeRequest) : Score α :=
  let expected := Text.tokens request.expected
  if (Text.tokens request.produced).isEmpty then .clamped 0 "empty output"
  else if request.expectsAbstention then
    if Text.abstains request.produced then .clamped 1 "abstained as expected"
    else .clamped 0 "expected an abstention but the answer asserts a result"
  else if expected.isEmpty then .clamped 0 "no expected keywords"
  else if request.matchedWords = expected.length then .clamped 1 "all expected keywords present"
  else
    .clamped ((request.matchedWords : α) / (expected.length : α) * 0.5)
      (toString request.matchedWords ++ "/" ++ toString expected.length ++
        " expected keywords present")

theorem ruleScore_value_eq :
    (request.ruleScore : Score α).value = (request.keywordScore : Score α).value := by
  unfold ruleScore keywordScore
  dsimp only
  rw [Text.isEmpty_normalize]
  split
  · rfl
  next hproduced =>
  split
  · rfl
  split
  · next hequal =>
    have htokens : Text.tokens request.produced = Text.tokens request.expected :=
      Text.normalize_eq_iff.mp hequal
    have hmatched : request.matchedWords = (Text.tokens request.expected).length :=
      matchedWords_of_subset fun token htoken ↦ htokens ▸ htoken
    have hexpected : ¬ (Text.tokens request.expected).isEmpty = true := htokens ▸ hproduced
    rw [if_neg hexpected, if_pos hmatched]
    rfl
  · rfl

end Rule

section Exact

variable {α : Type} [ExactScalar α] {request : JudgeRequest}

theorem clamped_value {a b : α} (h : a = b) (hlow : 0 ≤ b) (hhigh : b ≤ 1) (rationale : String) :
    (Score.clamped a rationale).value = b :=
  h ▸ clamp_of_not_lt (h ▸ hlow).not_gt (h ▸ hhigh).not_gt

theorem overlap_bounds {matched wanted : ℕ} (h : matched ≤ wanted) :
    0 ≤ (matched : α) / wanted ∧ (matched : α) / wanted ≤ 1 :=
  ⟨div_nonneg (Nat.cast_nonneg _) (Nat.cast_nonneg _),
    div_le_one_of_le₀ (Nat.cast_le.mpr h) (Nat.cast_nonneg _)⟩

theorem countP_mem_eq_matchedWords :
    (Text.tokens request.expected).countP (· ∈ Text.tokens request.produced) =
      request.matchedWords :=
  List.countP_congr fun token _ ↦ by simp

theorem matchedWords_le : request.matchedWords ≤ (Text.tokens request.expected).length :=
  List.countP_le_length

theorem keywordScore_value :
    let wanted := (Text.tokens request.expected).length
    let matched := request.matchedWords
    (request.keywordScore : Score α).value =
      if Text.tokens request.produced = [] then 0
      else if request.expectsAbstention then if Text.abstains request.produced then 1 else 0
      else if wanted = 0 then 0
      else if matched = wanted then 1
      else (matched : α) / (2 * wanted) := by
  have hzero := clamped_value (α := α) rfl le_rfl zero_le_one
  have hone := clamped_value (α := α) rfl zero_le_one le_rfl
  unfold keywordScore
  simp only [List.isEmpty_iff, List.length_eq_zero_iff]
  split_ifs
  · exact hzero _
  · exact hone _
  · exact hzero _
  · exact hzero _
  · exact hone _
  · obtain ⟨hlow, hhigh⟩ := overlap_bounds (α := α) (@matchedWords_le request)
    rw [mul_comm 2, ← div_div]
    refine clamped_value ?_ (by linarith) (by linarith) _
    rw [ExactScalar.ofScientific_eq, div_eq_mul_inv _ 2]
    norm_num

theorem overlapScore_value :
    let wanted := (Text.tokens request.expected).length
    (request.overlapScore : Score α).value =
      if Text.tokens request.produced = [] then 0
      else if request.expectsAbstention then
        if Text.abstains request.produced then 9 / 10 else 1 / 10
      else if wanted = 0 then 0
      else (request.matchedWords : α) / wanted := by
  unfold overlapScore overlap
  simp only [List.isEmpty_iff]
  split_ifs
  · exact clamped_value rfl le_rfl zero_le_one _
  · refine clamped_value ?_ (by norm_num) (by norm_num) _
    rw [ExactScalar.ofScientific_eq]
    norm_num
  · refine clamped_value ?_ (by norm_num) (by norm_num) _
    rw [ExactScalar.ofScientific_eq]
    norm_num
  · exact clamped_value rfl le_rfl zero_le_one _
  · obtain ⟨hlow, hhigh⟩ := overlap_bounds (α := α) (@matchedWords_le request)
    exact clamped_value rfl hlow hhigh _

end Exact

end JudgeRequest

namespace Judge

/-- Both judges answer every request, and their scores go together. Where abstention is expected
they are `1` and `9 / 10`, or `0` and `1 / 10`, or `0` and `0` for an answer without a word.
Elsewhere one is the share of the expected words that occur in the answer, and the other is half of
it as long as a word is missing. The comparison of the whole answer changes no score, whatever the
arithmetic. -/
theorem lexical_judges_agree {α β : Type} [ExactScalar α] [Scalar β] (request : JudgeRequest) :
    let expected := Text.tokens request.expected
    let produced := Text.tokens request.produced
    let wanted := expected.length
    let matched := expected.countP (· ∈ produced)
    (∃ byRule byOverlap : α,
      rule.Scores request byRule ∧ heuristic.Scores request byOverlap ∧
      (request.expectsAbstention →
        ((byRule, byOverlap) = (1, 9 / 10) ∨ (byRule, byOverlap) = (0, 1 / 10) ∨
          (byRule, byOverlap) = (0, 0)) ∧
        ((byRule, byOverlap) = (0, 0) ↔ produced = []) ∧
        ((byRule, byOverlap) = (1, 9 / 10) ↔ produced ≠ [] ∧ Text.abstains request.produced)) ∧
      (¬ request.expectsAbstention →
        (wanted = 0 ∨ produced = [] → (byRule, byOverlap) = (0, 0)) ∧
        (wanted ≠ 0 → produced ≠ [] →
          byOverlap = matched / wanted ∧
          byRule = if matched = wanted then 1 else (matched : α) / (2 * wanted)))) ∧
    (request.ruleScore : Score β).value = (request.keywordScore : Score β).value := by
  intro expected produced wanted matched
  have hmatched : matched = request.matchedWords :=
    JudgeRequest.countP_mem_eq_matchedWords
  refine ⟨⟨_, _, ⟨_, rfl, rfl⟩, ⟨_, rfl, rfl⟩, fun habstain ↦ ?_, fun hplain ↦ ?_⟩,
    request.ruleScore_value_eq⟩
  all_goals rw [request.ruleScore_value_eq, request.keywordScore_value, request.overlapScore_value]
  · rw [if_pos habstain, if_pos habstain]
    by_cases hnone : Text.tokens request.produced = []
    · simp [produced, hnone]
    by_cases hdeclined : Text.abstains request.produced <;>
      simp [produced, hnone, hdeclined]
  · rw [if_neg hplain, if_neg hplain, hmatched]
    refine ⟨?_, fun hwanted hproduced ↦ ?_⟩
    · rintro (hnone | hnone)
      · simp [show (Text.tokens request.expected).length = 0 from hnone]
      · simp [show Text.tokens request.produced = [] from hnone]
    · rw [if_neg hproduced, if_neg hproduced, if_neg hwanted, if_neg hwanted]
      exact ⟨rfl, rfl⟩

end Judge

end WorkflowSearch
