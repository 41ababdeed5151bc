import WorkflowSearch.Evaluation.Evaluator
import WorkflowSearch.Search.EarlyStop
import WorkflowSearch.Search.Mutator
import WorkflowSearch.Search.Selection
import WorkflowSearch.Search.Trace

namespace WorkflowSearch

variable {α σ : Type} [Scalar α]

inductive Boundary where
  | beforeRound (round : Nat)
  | afterSearch
  deriving DecidableEq

/-- Whether a run is cancelled at a boundary, which may depend on the calls made by then. -/
abbrev Cancellation := Boundary → History → Bool

namespace Cancellation

def never : Cancellation := fun _ _ => false

def always : Cancellation := fun _ _ => true

def atExecution (number : Nat) : Cancellation := fun _ history =>
  decide (0 < number) && decide (number ≤ history.countP Call.isExecution)

end Cancellation

inductive SearchError where
  | blueprint (error : BlueprintError)
  | emptyTrainSplit
  | missingBest
  deriving DecidableEq

def SearchError.kind : SearchError → String
  | .blueprint _ => "Blueprint"
  | .emptyTrainSplit => "EmptyTrainSplit"
  | .missingBest => "MissingBest"

def SearchError.message : SearchError → String
  | .blueprint error => "Mutation produced an invalid blueprint: " ++ error.message
  | .emptyTrainSplit => "Dataset has no train cases"
  | .missingBest => "Search finished without a best node"

structure SearchFailure where
  error : SearchError
  history : History

structure SearchProblem (α : Type) where
  evaluator : Evaluator α
  config : SearchConfig α
  task : String
  intents : List Intent
  catalog : List Tool
  train : List Case
  validation : List Case
  cancellation : Cancellation

structure SearchState (α σ : Type) where
  tree : Tree α
  bestNode : Nat
  bestSelection : α
  bestTrain : α
  context : SearchContext α σ
  traces : List (TraceEntry α)
  history : History

structure SearchOutcome (α σ : Type) where
  final : SearchState α σ
  stopReason : StopReason
  roundsCompleted : Nat

namespace SearchConfig

variable (config : SearchConfig α)

def selectionScore (train validation : Summary α) : α :=
  config.objective.selectionScore validation.objective train.meanScore validation.meanScore

end SearchConfig

namespace SearchProblem

variable (problem : SearchProblem α)

/-- The train and validation summaries of a blueprint; without a holdout the first stands in for the
second. -/
def evaluate (blueprint : Blueprint) (history : History) : (Summary α × Summary α) × History :=
  let evaluator := problem.evaluator
  let (train, history) := evaluator.evaluateCases blueprint problem.train .train history
  if problem.config.useHoldout then
    let (validation, history) :=
      evaluator.evaluateCases blueprint problem.validation .validation history
    ((train, validation), history)
  else ((train, train), history)

def mutator : Mutator α where
  config := problem.config
  task := problem.task
  intents := problem.intents
  catalog := problem.catalog

def families : List MutationFamily :=
  problem.config.families (!problem.catalog.isEmpty)

def seeded (root : Blueprint) (source : σ) (history : History) : SearchState α σ :=
  let ((train, validation), history) := problem.evaluate root history
  { tree := (Tree.ofRoot root train validation).backpropagate 0 train.objective
    bestNode := 0
    bestSelection := problem.config.selectionScore train validation
    bestTrain := train.objective
    context := .initial source
    traces := []
    history }

end SearchProblem

/-- Credits a tool with the change of the train objective that its addition made, or with the
opposite of the change that its removal made. -/
def creditTool (gains : ToolGains α) (mutation : Mutation) (improvement decay : α) : ToolGains α :=
  match mutation with
  | .toolAdd tool _ => gains.observe tool improvement decay
  | .toolRemove tool => gains.observe tool (-improvement) decay
  | _ => gains

namespace SearchProblem

variable (problem : SearchProblem α)

/-- The state after a child of a node was derived and evaluated. -/
def recordChild (state : SearchState α σ) (round expansion : Nat) (parent : Node α)
    (blueprint : Blueprint) (mutation : Mutation) (context : SearchContext α σ) :
    Option (SearchState α σ) := do
  let config := problem.config
  let ((train, validation), history) := problem.evaluate blueprint state.history
  let (tree, child) ← state.tree.addChild? parent.id blueprint mutation train validation
  let selection := config.selectionScore train validation
  let bestTrain := Scalar.max state.bestTrain train.objective
  let gains :=
    if config.enableToolHistoricalGain then
      creditTool context.gains mutation (train.objective - parent.train.objective)
        config.toolGainDecay
    else context.gains
  let improvement := selection - state.bestSelection
  let becameBest := decide (config.minImprovement ≤ improvement)
  let bestSelection := if becameBest then selection else state.bestSelection
  let entry : TraceEntry α :=
    { round
      expansion
      selectedNode := parent.id
      selectedBlueprint := parent.blueprint.parts.id
      childNode := child
      childBlueprint := blueprint.parts.id
      mutation
      trainObjective := train.objective
      valObjective := validation.objective
      selectionScore := selection
      bestTrainObjective := bestTrain
      bestSelectionScore := bestSelection
      improvement
      regret :=
        if becameBest then 0 else state.bestSelection + config.minImprovement - selection
      uncertainty := validation.uncertainty
      generalizationGap := generalizationGap train.meanScore validation.meanScore
      becameBest }
  return { tree := tree.backpropagate child train.objective
           bestNode := if becameBest then child else state.bestNode
           bestSelection
           bestTrain
           context := { context with gains }
           traces := state.traces ++ [entry]
           history }

/-- The child of a node by a mutation of a family, under the next id. -/
def deriveChild (family : MutationFamily) (node : Node α) (context : SearchContext α σ) :
    Except BlueprintError (Blueprint × Mutation) × SearchContext α σ :=
  let (childId, context) := context.nextBlueprintId
  problem.mutator.apply family node.blueprint node.train childId context

variable [RandomSource σ]

/-- Expands a node up to `left` times more, as long as it has room for children. -/
def expand (round parent : Nat) : (left expansion : Nat) → SearchState α σ →
    Except SearchFailure (SearchState α σ)
  | 0, _, state => .ok state
  | left + 1, expansion, state =>
    match state.tree.get? parent with
    | none => .ok state
    | some node =>
      if problem.config.maxChildren ≤ node.children.length then .ok state
      else
        let context := state.context
        let (family?, source) := chooseFamily? problem.families
          problem.config.failureAwareScheduling round expansion node.train.dominantFailure?
          context.source
        match family? with
        | none => .ok { state with context := { context with source } }
        | some family =>
          let (derived, context) := problem.deriveChild family node { context with source }
          match derived with
          | .error error => .error ⟨.blueprint error, state.history⟩
          | .ok (blueprint, mutation) =>
            match problem.recordChild state round expansion node blueprint mutation context with
            | none => .ok state
            | some state => expand round parent left (expansion + 1) state

def runRounds : (left done : Nat) → EarlyStopper α → SearchState α σ →
    Except SearchFailure (SearchOutcome α σ)
  | 0, done, _, state => .ok ⟨state, .budgetExhausted, done⟩
  | left + 1, done, stopper, state =>
    let round := done + 1
    if problem.cancellation (.beforeRound round) state.history then
      .ok ⟨state, .cancelled, done⟩
    else
      match state.tree.select? problem.config with
      | none => .ok ⟨state, .budgetExhausted, done⟩
      | some parent => do
        let state ← problem.expand round parent problem.config.expansionsPerRound 0 state
        let stopper := stopper.observe problem.config.minImprovement state.bestSelection
        if stopper.shouldStop problem.config.patience then
          return ⟨state, .earlyStopped, round⟩
        runRounds left round stopper state

/-- Searches from a root. Without a mutation family the root is all there is. -/
def run (root : Blueprint) (source : σ) (history : History) :
    Except SearchFailure (SearchOutcome α σ) :=
  if problem.train.isEmpty then .error ⟨.emptyTrainSplit, history⟩
  else
    let state := problem.seeded root source history
    let rounds := if problem.families.isEmpty then 0 else problem.config.rounds
    problem.runRounds rounds 0 .initial state

end SearchProblem

/-- The problem over a dataset: train and validation are capped to their budgets. -/
def SearchProblem.ofDataset (evaluator : Evaluator α) (config : SearchConfig α) (task : String)
    (dataset : Dataset α) (intents : List Intent) (catalog : List Tool)
    (cancellation : Cancellation) : SearchProblem α :=
  let sliced := dataset.sliced ⟨some config.trainBudget, some config.validationBudget, some 0⟩
  { evaluator
    config
    task
    intents
    catalog
    train := sliced.ofSplit .train
    validation := sliced.ofSplit .validation
    cancellation }

def SearchOutcome.best? (outcome : SearchOutcome α σ) : Option (Node α) :=
  outcome.final.tree.get? outcome.final.bestNode

end WorkflowSearch
