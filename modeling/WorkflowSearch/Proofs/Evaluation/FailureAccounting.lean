import WorkflowSearch.Evaluation.Summary
import WorkflowSearch.Proofs.Tally

namespace WorkflowSearch

variable {α : Type}

namespace FailureCategory

theorem mem_all (category : FailureCategory) : category ∈ all := by
  cases category <;> decide

theorem nodup_all : all.Nodup := by decide

def signalled : List FailureCategory :=
  [.executionGrounding, .toolSelection, .decomposition, .verifierMismatch]

end FailureCategory

namespace Execution

def mentions (execution : Execution α) (category : FailureCategory) : Bool :=
  category.keywords.any
    (Text.containsPhrase
      (Text.normalize (execution.output.rawOutput ++ "\n" ++ execution.rationale)))

/-- The first category that the execution mentions, and the one without keywords if there is none.
-/
def failureCategory (execution : Execution α) : FailureCategory :=
  (FailureCategory.signalled.find? execution.mentions).getD .other

theorem map_fst_findSome? {find : FailureCategory → Option String}
    {categories : List FailureCategory} :
    (categories.findSome? fun category ↦ (find category).map (category, ·)).map Prod.fst =
      categories.find? fun category ↦ (find category).isSome := by
  induction categories with
  | nil => rfl
  | cons category categories ih =>
    cases hfound : find category with
    | none => simp [hfound, ih]
    | some keyword => simp [hfound]

theorem mentions_eq (execution : Execution α) :
    execution.mentions = fun category ↦
      (category.keywords.find? (Text.containsPhrase
        (Text.normalize (execution.output.rawOutput ++ "\n" ++ execution.rationale)))).isSome :=
  funext fun _ ↦ List.isSome_find?.symm

theorem find?_all_mentions (execution : Execution α) :
    FailureCategory.all.find? execution.mentions =
      FailureCategory.signalled.find? execution.mentions := by
  -- The last category has no keywords: it is where all others end as well.
  have hother : [FailureCategory.other].find? execution.mentions = none := rfl
  rw [show FailureCategory.all = FailureCategory.signalled ++ [.other] from rfl, List.find?_append,
    hother, Option.or_none]

theorem failure_fst (execution : Execution α) :
    execution.failure.1 = execution.failureCategory := by
  rw [failureCategory, ← find?_all_mentions, mentions_eq, ← map_fst_findSome?, failure]
  cases FailureCategory.all.findSome? _ <;> rfl

end Execution

/-- A tally has no count of zero, so none is left out where the most frequent category is sought. -/
theorem Summary.dominantFailure?_eq {summary : Summary α} {categories : List FailureCategory}
    (h : summary.failures = tally FailureCategory.all categories) :
    summary.dominantFailure? = mostFrequent? (tally FailureCategory.all categories) := by
  rw [dominantFailure?, h, filter_pos_tally]

variable [Scalar α]

theorem Execution.failureSignal_category (threshold : α) (execution : Execution α) :
    (execution.failureSignal threshold).category = execution.failureCategory := by
  rw [← failure_fst, failureSignal]

theorem ofSignals_failureSignals (threshold : α) (executions : List (Execution α)) :
    FailureHistogram.ofSignals (failureSignals threshold executions) =
      tally FailureCategory.all
        ((executions.filter (·.isLow threshold)).map (·.failureCategory)) := by
  rw [FailureHistogram.ofSignals, failureSignals, List.map_map]
  exact congrArg (tally FailureCategory.all)
    (List.map_congr_left fun execution _ ↦ execution.failureSignal_category threshold)

theorem reflect_categories (low : List (Execution α)) :
    (reflect low).categories = tally FailureCategory.all (low.map (·.failureCategory)) :=
  congrArg (tally FailureCategory.all)
    (List.map_congr_left fun execution _ ↦ execution.failure_fst)

/-- The failures of a summary are the categories of the reflection on its low-scoring cases: how
often each category is the first that such a case mentions. They add up to these cases, and both
name the most frequent category, the first of equals, unless no case scores low. -/
theorem failures_match_reflection (blueprint : Blueprint) (split : Split)
    (outcomes : List (CaseOutcome α)) (weights : ObjectiveWeights α)
    (invalidFractionThreshold threshold : α) :
    let summary := summarize blueprint split outcomes weights invalidFractionThreshold threshold
    let low := (outcomes.filterMap CaseOutcome.execution?).filter (·.score < threshold)
    let count category := low.countP (·.failureCategory = category)
    let reflection := reflect (summary.lowScoring threshold)
    summary.lowScoring threshold = low ∧
    summary.failures = reflection.categories ∧
    (summary.failures.map Prod.fst).Sublist FailureCategory.all ∧
    (∀ category n, (category, n) ∈ summary.failures ↔ n = count category ∧ n ≠ 0) ∧
    (summary.failures.map Prod.snd).sum = low.length ∧
    summary.dominantFailure? = reflection.dominant ∧
    (∀ category, summary.dominantFailure? = some category ↔
      count category ≠ 0 ∧ ∀ rival, count rival ≤ count category ∧
        (count rival = count category →
          FailureCategory.all.idxOf category ≤ FailureCategory.all.idxOf rival)) ∧
    (summary.dominantFailure? = none ↔ low = []) := by
  intro summary low count reflection
  have hcategories : summary.failures = tally FailureCategory.all (low.map (·.failureCategory)) :=
    ofSignals_failureSignals threshold _
  have hcount (category : FailureCategory) :
      (low.map (·.failureCategory)).count category = count category :=
    count_map_eq_countP _ low category
  have hreflection : summary.failures = reflection.categories :=
    hcategories.trans (reflect_categories low).symm
  refine ⟨rfl, hreflection, ?_, fun category n ↦ ?_, ?_, ?_, fun category ↦ ?_, ?_⟩
  · rw [hcategories]
    exact keys_tally_sublist _ _
  · rw [hcategories]
    exact mem_tally_map FailureCategory.mem_all _ low category n
  · rw [hcategories, sum_tally FailureCategory.nodup_all FailureCategory.mem_all, List.length_map]
  · rw [Summary.dominantFailure?_eq hcategories, ← hcategories, hreflection]
    rfl
  · rw [Summary.dominantFailure?_eq hcategories,
      mostFrequent?_tally_eq_some_iff FailureCategory.nodup_all FailureCategory.mem_all]
    simp only [hcount]
  · rw [Summary.dominantFailure?_eq hcategories, mostFrequent?_eq_none_iff,
      tally_eq_nil_iff FailureCategory.mem_all, List.map_eq_nil_iff]

end WorkflowSearch
