import WorkflowSearch.Judge.Lexical
import WorkflowSearch.Proofs.Scalar.Exact
import WorkflowSearch.Proofs.Text.Tokens
import WorkflowSearch.Scalar.Double

namespace WorkflowSearch

def Judge.Scores {α : Type} (judge : Judge α) (request : JudgeRequest) (value : α) : Prop :=
  ∃ score, judge.ask request = .ok score ∧ score.value = value

namespace JudgeRequest

variable {α : Type} [Scalar α] {request : JudgeRequest}

theorem matchedWords_of_subset (h : Text.tokens request.expected ⊆ Text.tokens request.produced) :
    request.matchedWords = (Text.tokens request.expected).length := by
  rw [matchedWords, List.countP_eq_length]
  exact fun token htoken ↦ List.contains_iff_mem.mpr (h htoken)

theorem produced_ne_nil_of_subset (hsome : Text.tokens request.expected ≠ [])
    (h : Text.tokens request.expected ⊆ Text.tokens request.produced) :
    Text.tokens request.produced ≠ [] :=
  fun hnone ↦ hsome (List.subset_nil.mp (hnone ▸ h))

theorem ruleScore_of_subset (hplain : request.expectsAbstention = false)
    (hsome : Text.tokens request.expected ≠ [])
    (h : Text.tokens request.expected ⊆ Text.tokens request.produced) :
    (request.ruleScore : Score α).value = Scalar.clamp 0 1 1 := by
  have hproduced : (Text.normalize request.produced).isEmpty = false := by
    rw [Text.isEmpty_normalize]
    simpa using produced_ne_nil_of_subset hsome h
  have hexpected : (Text.tokens request.expected).isEmpty = false := by simpa using hsome
  unfold ruleScore
  simp only [hproduced, hplain, hexpected, matchedWords_of_subset h, if_true, Bool.false_eq_true,
    if_false]
  -- An answer that equals the expected words has the same score as one that contains them.
  split <;> rfl

theorem overlapScore_of_subset (hplain : request.expectsAbstention = false)
    (hsome : Text.tokens request.expected ≠ [])
    (h : Text.tokens request.expected ⊆ Text.tokens request.produced) :
    let wanted := (Text.tokens request.expected).length
    (request.overlapScore : Score α).value = Scalar.clamp 0 1 ((wanted : α) / (wanted : α)) := by
  have hproduced : (Text.tokens request.produced).isEmpty = false := by
    simpa using produced_ne_nil_of_subset hsome h
  have hlength : (Text.tokens request.expected).length ≠ 0 := mt List.length_eq_zero_iff.mp hsome
  simp [overlapScore, overlap, hproduced, hplain, hlength, matchedWords_of_subset h, Score.clamped]

theorem ruleScore_of_abstains (hwanted : request.expectsAbstention = true)
    (hsome : Text.tokens request.produced ≠ []) (h : Text.abstains request.produced = true) :
    (request.ruleScore : Score α).value = Scalar.clamp 0 1 1 := by
  have hproduced : (Text.normalize request.produced).isEmpty = false := by
    rw [Text.isEmpty_normalize]
    simpa using hsome
  simp [ruleScore, hproduced, hwanted, h, Score.clamped]

theorem overlapScore_of_abstains (hwanted : request.expectsAbstention = true)
    (hsome : Text.tokens request.produced ≠ []) (h : Text.abstains request.produced = true) :
    (request.overlapScore : Score α).value = Scalar.clamp 0 1 0.9 := by
  have hproduced : (Text.tokens request.produced).isEmpty = false := by simpa using hsome
  simp [overlapScore, hproduced, hwanted, h, Score.clamped]

end JudgeRequest

/-- Full shares of a few words, and the two fixed scores, come out as they are. -/
class JudgeScalar (α : Type) [Scalar α] : Prop where
  clamp_one : Scalar.clamp 0 1 (1 : α) = 1
  clamp_declined : Scalar.clamp 0 1 (0.9 : α) = 0.9
  clamp_share_self : ∀ wanted : ℕ, wanted < 4 → wanted ≠ 0 →
    Scalar.clamp 0 1 ((wanted : α) / (wanted : α)) = 1

instance {α : Type} [ExactScalar α] : JudgeScalar α where
  clamp_one := clamp_of_not_lt zero_le_one.not_gt (lt_irrefl 1)
  clamp_declined := by
    rw [ExactScalar.ofScientific_eq]
    have hpositive : (0 : ℚ) ≤ 0.9 := by norm_num
    have hsmall : (0.9 : ℚ) ≤ 1 := by norm_num
    refine clamp_of_not_lt (not_lt.mpr ?_) (not_lt.mpr ?_)
    · exact_mod_cast hpositive
    · exact_mod_cast hsmall
  clamp_share_self wanted _ hsome := by
    rw [div_self (Nat.cast_ne_zero.mpr hsome)]
    exact clamp_of_not_lt zero_le_one.not_gt (lt_irrefl 1)

deriving instance DecidableEq for Double

instance : JudgeScalar Double where
  clamp_one := by decide +kernel
  clamp_declined := by decide +kernel
  clamp_share_self := by decide +kernel

end WorkflowSearch
