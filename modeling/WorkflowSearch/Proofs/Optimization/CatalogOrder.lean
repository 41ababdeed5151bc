import Mathlib.Data.List.Perm.Basic
import WorkflowSearch.Proofs.Optimization.TestIsolation
import WorkflowSearch.Proofs.Scalar.Order

namespace WorkflowSearch

section

variable {α : Type} [Scalar α]

/-- The higher score comes first, of equals the smaller id. -/
def compareRanked : α × Tool → α × Tool → Ordering :=
  compareLex (fun a b ↦ Scalar.order b.1 a.1) (compareOn fun scored ↦ scored.2.id)

theorem precedes_eq (a b : α × Tool) : precedes a b = (compareRanked a b).isLE :=
  rfl

theorem id_eq_of_compareRanked_eq {a b : α × Tool} (h : compareRanked a b = .eq) :
    a.2.id = b.2.id := by
  rw [compareRanked, compareLex, Ordering.then_eq_eq] at h
  exact Std.LawfulEqCmp.eq_of_compare h.2

variable [TotalScalar α]

instance : Std.TransCmp (compareRanked : α × Tool → α × Tool → Ordering) := by
  have hscore : Std.TransCmp fun a b : α × Tool ↦ Scalar.order b.1 a.1 :=
    { eq_swap := Std.OrientedCmp.eq_swap
      isLE_trans hab hbc := Std.TransCmp.isLE_trans hbc hab }
  unfold compareRanked
  infer_instance

theorem pairwise_mergeSort_precedes (scored : List (α × Tool)) :
    (scored.mergeSort precedes).Pairwise fun a b ↦ precedes a b = true := by
  refine List.pairwise_mergeSort (fun a b c hab hbc ↦ ?_) (fun a b ↦ ?_) scored
  · rw [precedes_eq] at hab hbc ⊢
    exact Std.TransCmp.isLE_trans hab hbc
  · have hswap : compareRanked b a = (compareRanked a b).swap := Std.OrientedCmp.eq_swap
    rw [precedes_eq, precedes_eq, hswap]
    cases compareRanked a b <;> rfl

theorem rankTools_perm {catalog catalog' : List Tool} (hperm : catalog.Perm catalog')
    (hids : (catalog.map (·.id)).Nodup) (task : String) (intents : List Intent)
    (gains : ToolGains α) :
    rankTools task intents gains catalog = rankTools task intents gains catalog' := by
  let scored (tools : List Tool) : List (α × Tool) :=
    tools.map fun tool ↦ (toolScore task intents gains tool, tool)
  have hsorted : ((scored catalog).mergeSort precedes).Perm ((scored catalog').mergeSort precedes) :=
    ((scored catalog).mergeSort_perm precedes).trans
      ((hperm.map _).trans ((scored catalog').mergeSort_perm precedes).symm)
  have hmem {entry : α × Tool} {tools : List Tool}
      (h : entry ∈ (scored tools).mergeSort precedes) :
      entry.2 ∈ tools ∧ entry.1 = toolScore task intents gains entry.2 := by
    obtain ⟨tool, htool, rfl⟩ := List.mem_map.mp (List.mem_mergeSort.mp h)
    exact ⟨htool, rfl⟩
  have heq : (scored catalog).mergeSort precedes = (scored catalog').mergeSort precedes := by
    refine hsorted.eq_of_pairwise (fun a b ha hb hab hba ↦ ?_) (pairwise_mergeSort_precedes _)
      (pairwise_mergeSort_precedes _)
    obtain ⟨hfirst, hscore⟩ := hmem ha
    obtain ⟨hsecond, hscore'⟩ := hmem hb
    have htool : a.2 = b.2 := List.inj_on_of_nodup_map hids hfirst (hperm.mem_iff.mpr hsecond)
      (id_eq_of_compareRanked_eq (Std.OrientedCmp.isLE_antisymm hab hba))
    exact Prod.ext (by rw [hscore, hscore', htool]) htool
  exact congrArg (List.map (·.2)) heq

variable {σ : Type} [RandomSource σ]

/-- The order of a catalog of distinct ids does not matter: with services that give the cases of a
run the same replies for both orders, the run comes out the same, and the root of an optimization is
the same blueprint. -/
theorem catalog_order_irrelevant (evaluator evaluator' : Evaluator α) (config : SearchConfig α)
    (task : String) (dataset : Dataset α) (intents : List Intent) (catalog catalog' : List Tool)
    (cancellation : Cancellation) (hperm : catalog.Perm catalog')
    (hids : (catalog.map (·.id)).Nodup)
    (htrain : Evaluator.Alike ((dataset.ofSplit .train).take config.trainBudget) evaluator
      evaluator')
    (hvalidation : config.useHoldout = true → Evaluator.Alike
      ((dataset.ofSplit .validation).take config.validationBudget) evaluator evaluator') :
    (∀ (root : Blueprint) (source : σ) (history : History),
      (SearchProblem.ofDataset evaluator config task dataset intents catalog cancellation).run root
          source history =
        (SearchProblem.ofDataset evaluator' config task dataset intents catalog' cancellation).run
          root source history) ∧
    ∀ config : Config α,
      rootBlueprint task config intents catalog = rootBlueprint task config intents catalog' := by
  have hranked := rankTools_perm (α := α) hperm hids task intents
  refine ⟨fun root source history ↦ ?_, fun config ↦ ?_⟩
  · exact (SearchProblem.agrees_ofDataset rfl (fun _ ↦ rfl) htrain hvalidation hperm.isEmpty_eq
      hranked).run_eq root source history
  · rw [rootBlueprint, rootBlueprint, hranked]

end

def reversedEvaluator : Evaluator ℚ :=
  { simulatedEvaluator with service := .simulated simulatedSchema simulatedCatalog.reverse }

theorem reversedEvaluator_alike (cases : List Case) :
    Evaluator.Alike cases simulatedEvaluator reversedEvaluator where
  config := rfl
  objective := rfl
  lowScoreThreshold := rfl
  execute _ _ _ _ := rfl
  verdict _ _ _ _ := rfl

theorem simulated_catalog_order_irrelevant :
    simulatedCatalog.Perm simulatedCatalog.reverse ∧ (simulatedCatalog.map (·.id)).Nodup ∧
    simulatedProblem.run simulatedRoot (ChaCha.ofSeed 0) [] =
      (SearchProblem.ofDataset reversedEvaluator .default "Find accounts" (fixtureDataset 5) [.query]
        simulatedCatalog.reverse .never).run simulatedRoot (ChaCha.ofSeed 0) [] ∧
    rootBlueprint "Find accounts" (smallConfig [.rule]) [.query] simulatedCatalog =
      rootBlueprint "Find accounts" (smallConfig [.rule]) [.query] simulatedCatalog.reverse := by
  have hperm : simulatedCatalog.Perm simulatedCatalog.reverse :=
    (List.reverse_perm simulatedCatalog).symm
  have hids : (simulatedCatalog.map (·.id)).Nodup := by decide
  obtain ⟨hrun, hroot⟩ := catalog_order_irrelevant (σ := ChaCha) simulatedEvaluator
    reversedEvaluator .default "Find accounts" (fixtureDataset 5) [.query] simulatedCatalog
    simulatedCatalog.reverse .never hperm hids (reversedEvaluator_alike _)
    fun _ ↦ reversedEvaluator_alike _
  exact ⟨hperm, hids, hrun simulatedRoot (ChaCha.ofSeed 0) [], hroot _⟩

end WorkflowSearch
