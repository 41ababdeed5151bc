import WorkflowSearch.Proofs.Evaluation.Calls
import WorkflowSearch.Search.Run

namespace WorkflowSearch

variable {α σ : Type} [Scalar α]

namespace Evaluator

/-- Evaluators that give some cases the same replies and the replies the same verdicts. -/
structure Alike (cases : List Case) (e e' : Evaluator α) : Prop where
  config : e.config = e'.config
  objective : e.objective = e'.objective
  lowScoreThreshold : e.lowScoreThreshold = e'.lowScoreThreshold
  execute : ∀ case ∈ cases, ∀ history blueprint,
    e.service.execute history blueprint case = e'.service.execute history blueprint case
  verdict : ∀ case ∈ cases, ∀ history (output : CaseOutput α),
    e.ensemble.verdict (.ofOutput case history output) =
      e'.ensemble.verdict (.ofOutput case history output)

variable {cases : List Case} {e e' : Evaluator α}

theorem Alike.mono {fewer : List Case} (h : Alike cases e e') (hsubset : fewer ⊆ cases) :
    Alike fewer e e' :=
  ⟨h.config, h.objective, h.lowScoreThreshold, fun case hcase ↦ h.execute case (hsubset hcase),
    fun case hcase ↦ h.verdict case (hsubset hcase)⟩

theorem Alike.evaluateCase_eq (h : Alike cases e e') {case : Case} (hcase : case ∈ cases)
    (blueprint : Blueprint) (history : History) :
    e.evaluateCase blueprint case history = e'.evaluateCase blueprint case history := by
  refine (evaluateCase_congr h.config.symm (fun number _ ↦ ?_) fun after output ↦ ?_).symm
  · exact (h.execute case hcase _ _).symm
  · exact (h.verdict case hcase after output).symm

theorem Alike.runCases_eq (h : Alike cases e e') (blueprint : Blueprint) (history : History) :
    e.runCases blueprint cases history = e'.runCases blueprint cases history := by
  induction cases generalizing history with
  | nil => rfl
  | cons case cases ih =>
    have hrest := h.mono (List.subset_cons_self case cases)
    simp only [runCases, h.evaluateCase_eq List.mem_cons_self, ih hrest]

theorem Alike.evaluateCases_eq (h : Alike cases e e') (blueprint : Blueprint) (split : Split)
    (history : History) :
    e.evaluateCases blueprint cases split history =
      e'.evaluateCases blueprint cases split history := by
  simp only [evaluateCases, summarizeRuns, h.runCases_eq, h.config, h.objective,
    h.lowScoreThreshold]

end Evaluator

namespace SearchProblem

/-- Problems of one setting whose catalogs are ranked alike and whose evaluations come out the same.
-/
structure Agrees (problem problem' : SearchProblem α) : Prop where
  config : problem.config = problem'.config
  task : problem.task = problem'.task
  catalog_isEmpty : problem.catalog.isEmpty = problem'.catalog.isEmpty
  ranked : ∀ gains : ToolGains α, rankTools problem.task problem.intents gains problem.catalog =
    rankTools problem'.task problem'.intents gains problem'.catalog
  cancellation : problem.cancellation = problem'.cancellation
  train_isEmpty : problem.train.isEmpty = problem'.train.isEmpty
  evaluate : ∀ blueprint history,
    problem.evaluate blueprint history = problem'.evaluate blueprint history

namespace Agrees

variable {problem problem' : SearchProblem α} (h : problem.Agrees problem')
include h

theorem apply_eq (family : MutationFamily) (parent : Blueprint) (parentTrain : Summary α)
    (childId : String) (context : SearchContext α σ) :
    problem.mutator.apply family parent parentTrain childId context =
      problem'.mutator.apply family parent parentTrain childId context := by
  have hchange : problem.mutator.toolChange = problem'.mutator.toolChange := by
    funext parent gains
    simp only [Mutator.toolChange, mutator, h.config, h.ranked]
    rfl
  cases family with
  | prompt => simp only [Mutator.apply, Mutator.revisePrompt, mutator, h.config, h.task]
  | tool => simp only [Mutator.apply, Mutator.changeTools, hchange]
  | topology => rfl

theorem deriveChild_eq (family : MutationFamily) (node : Node α) (context : SearchContext α σ) :
    problem.deriveChild family node context = problem'.deriveChild family node context :=
  h.apply_eq ..

theorem families_eq : problem.families = problem'.families := by
  simp only [families, h.config, h.catalog_isEmpty]

theorem seeded_eq (root : Blueprint) (source : σ) (history : History) :
    problem.seeded root source history = problem'.seeded root source history := by
  simp only [seeded, h.evaluate, h.config]

theorem recordChild_eq (state : SearchState α σ) (round expansion : ℕ) (parent : Node α)
    (blueprint : Blueprint) (mutation : Mutation) (context : SearchContext α σ) :
    problem.recordChild state round expansion parent blueprint mutation context =
      problem'.recordChild state round expansion parent blueprint mutation context := by
  simp only [recordChild, h.evaluate, h.config]

variable [RandomSource σ]

theorem expand_eq (round parent left expansion : ℕ) (state : SearchState α σ) :
    problem.expand round parent left expansion state =
      problem'.expand round parent left expansion state := by
  induction left generalizing expansion state with
  | zero => rfl
  | succ left ih =>
    simp only [expand, ih, h.config, h.families_eq, h.deriveChild_eq, h.recordChild_eq]

theorem runRounds_eq (left done : ℕ) (stopper : EarlyStopper α) (state : SearchState α σ) :
    problem.runRounds left done stopper state = problem'.runRounds left done stopper state := by
  induction left generalizing done stopper state with
  | zero => rfl
  | succ left ih => simp only [runRounds, ih, h.config, h.cancellation, h.expand_eq]

theorem run_eq (root : Blueprint) (source : σ) (history : History) :
    problem.run root source history = problem'.run root source history := by
  simp only [run, h.train_isEmpty, h.seeded_eq, h.families_eq, h.config, h.runRounds_eq]

end Agrees

end SearchProblem

end WorkflowSearch
