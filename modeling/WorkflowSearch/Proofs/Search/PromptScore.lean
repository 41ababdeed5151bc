import Mathlib.Data.List.Flatten
import WorkflowSearch.Proofs.Scalar.Numbers
import WorkflowSearch.Search.Prompt

namespace WorkflowSearch

section

variable {α : Type} [Scalar α]

def promptCredit (evidence unknown fallback : Bool) (covered known : ℕ) : α :=
  let mention (score : α) (mentioned : Bool) (credit : α) : α :=
    if mentioned then score + credit else score
  let score := mention (mention (mention 0.5 evidence 0.15) unknown 0.1) fallback 0.05
  if known = 0 then score else score + 0.2 * (covered : α) / (known : α)

theorem exists_promptScore_eq (prompt : String) (keywords : List String) :
    ∃ evidence unknown fallback : Bool, ∃ covered ≤ keywords.length,
      (promptScore prompt keywords : α) = Scalar.clamp 0 1
        (promptCredit evidence unknown fallback covered keywords.length -
          Scalar.min ((prompt.utf8ByteSize : α) / 6000.0) 0.12) := by
  let text := Text.lowercase prompt
  refine ⟨Text.contains text "evidence", Text.contains text "unknown",
    Text.contains text "fallback", keywords.countP (Text.contains text), List.countP_le_length, ?_⟩
  unfold promptScore promptCredit
  cases keywords <;> rfl

theorem length_eraseDups_le (l : List String) : l.eraseDups.length ≤ l.length :=
  (List.subperm_of_subset (nodup_eraseDups l) fun _ hs ↦ List.mem_eraseDups.mp hs).length_le

theorem length_remedies_reflect (low : List (Execution α)) : (reflect low).remedies.length ≤ 9 := by
  let counts := FailureCategory.all.map fun category ↦
    (category, (low.map (·.failure.1)).count category)
  have hsub : (tally FailureCategory.all (low.map (·.failure.1))).Sublist counts :=
    List.filter_sublist
  calc (reflect low).remedies.length
      ≤ ((tally FailureCategory.all (low.map (·.failure.1))).flatMap (·.1.remedies)).length :=
        length_eraseDups_le _
    _ ≤ (counts.flatMap (·.1.remedies)).length := (hsub.flatMap _).length_le
    _ = 9 := rfl

end

/-- The numbers are totally ordered, and prompts are scored with numbers. -/
class PromptScalar (α : Type) [Scalar α] : Prop extends OrderedScalar α where
  promptScore_isNumber (prompt : String) {keywords : List String} (h : keywords.length ≤ 9) :
    (promptScore prompt keywords : α) ≤ promptScore prompt keywords

instance {α : Type} [ExactScalar α] : PromptScalar α where
  promptScore_isNumber _ _ _ := le_rfl

theorem isFinite_promptCredit : ∀ evidence unknown fallback : Bool, ∀ known < 10,
    ∀ covered < known + 1,
      (promptCredit evidence unknown fallback covered known : Double).isFinite = true := by
  decide +kernel

instance : PromptScalar Double where
  promptScore_isNumber prompt keywords h := by
    obtain ⟨evidence, unknown, fallback, covered, hcovered, hscore⟩ :=
      exists_promptScore_eq (α := Double) prompt keywords
    rw [hscore]
    have hpenalty : Scalar.min ((prompt.utf8ByteSize : Double) / 6000.0) 0.12 ≤
        Scalar.min ((prompt.utf8ByteSize : Double) / 6000.0) 0.12 :=
      Scalar.min_isNumber _ (by decide +kernel)
    have hcredit := isFinite_promptCredit evidence unknown fallback keywords.length (by omega)
      covered (by omega)
    exact Scalar.clamp_isNumber (by decide +kernel) (by decide +kernel)
      (Double.sub_isNumber hcredit hpenalty)

end WorkflowSearch
