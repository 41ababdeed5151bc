import WorkflowSearch.Config.Profile
import WorkflowSearch.Search.Run
import WorkflowSearch.Synthesis.Basic

namespace WorkflowSearch

variable {α σ : Type} [Scalar α] [RandomSource σ]

inductive OptimizationFault (α : Type) where
  | configuration (error : ConfigError α)
  | synthesis (error : SynthesisError)
  | catalog (error : ServiceError)
  | blueprint (error : BlueprintError)
  | search (error : SearchError)
  | materialization (error : ServiceError)

def OptimizationFault.stage : OptimizationFault α → String
  | .configuration _ => "Configuration"
  | .synthesis _ => "Synthesis"
  | .catalog _ => "Catalog"
  | .blueprint _ => "Blueprint"
  | .search _ => "Search"
  | .materialization _ => "Materialize"

def OptimizationFault.kind : OptimizationFault α → String
  | .configuration error => error.kind
  | .synthesis error => error.kind
  | .catalog error | .materialization error => error.kind
  | .blueprint error => error.kind
  | .search error => error.kind

def OptimizationFault.message : OptimizationFault α → String
  | .configuration error => "Invalid configuration: " ++ error.message
  | .synthesis error => "Dataset synthesis failed: " ++ error.message
  | .catalog error => "Runtime catalog unavailable: " ++ error.message
  | .blueprint error => "Invalid root blueprint: " ++ error.message
  | .search error => "Search failed: " ++ error.message
  | .materialization error => "Materialization failed: " ++ error.message

/-- A failed run with what is needed to repeat it, and the calls that it made. -/
structure OptimizationError (α : Type) where
  fault : OptimizationFault α
  seed : Nat
  config : Config α
  history : History

def OptimizationError.message (error : OptimizationError α) : String :=
  error.fault.message ++ " (seed " ++ toString error.seed ++ ")"

/-- How an optimization ends without a result, and the calls that it made. -/
inductive OptimizationStop (α : Type) where
  | failed (error : OptimizationError α)
  | panicked (history : History)

def OptimizationStop.history : OptimizationStop α → History
  | .failed error => error.history
  | .panicked history => history

structure OptimizationResult (α σ : Type) where
  seed : Nat
  profile : Option Profile
  config : Config α
  datasetReport : SynthesisReport α
  intents : List Intent
  best : Node α
  testSummary : Option (Summary α)
  outcome : SearchOutcome α σ
  history : History

def OptimizationResult.degraded (result : OptimizationResult α σ) : Bool :=
  result.best.train.degraded || result.best.validation.degraded ||
    result.testSummary.any (·.degraded)

def rootBlueprintId : String :=
  blueprintId 0

/-- What an optimization runs against: the service, how judges are made, how a seed becomes a source
of random choices, and when the run is cancelled. -/
structure Surroundings (α σ : Type) where
  service : Service α
  judges : JudgeSource α
  source : Nat → σ
  cancellation : Cancellation

/-- The configuration with its profile applied, once it and the task are found valid. The first
component is the configuration that an error reports. -/
def checkedConfig (task : String) (config : Config α) :
    Config α × Except (ConfigError α) (Option Profile) :=
  let (config, resolved) := config.resolveProfile
  (config, do
    let profile ← resolved
    config.validate
    if (Text.trim task).isEmpty then
      throw (.inconsistent "task description must not be empty")
    return profile)

def rootBlueprint (task : String) (config : Config α) (intents : List Intent)
    (catalog : List Tool) : Except BlueprintError Blueprint :=
  let ranked := rankTools task intents ([] : ToolGains α) catalog
  Blueprint.initial rootBlueprintId config.appName task
    (ranked.take config.search.initialToolCount) config.search.initialTopology

/-- The summary of the best blueprint on the test split, unless the run is cancelled or there are no
test cases. -/
def testEvaluation (evaluator : Evaluator α) (cancellation : Cancellation) (dataset : Dataset α)
    (budget : Nat) (blueprint : Blueprint) (history : History) : Option (Summary α) × History :=
  let cases := dataset.ofSplit .test
  if cancellation .afterSearch history || cases.isEmpty then (none, history)
  else
    let (summary, history) := evaluator.evaluateCases blueprint (cases.take budget) .test history
    (some summary, history)

def optimize (surroundings : Surroundings α σ) (task : String) (config : Config α) (seed : Nat) :
    Except (OptimizationStop α) (OptimizationResult α σ) := do
  let (config, checked) := checkedConfig task config
  let failing {β ε : Type} (history : History) (fault : ε → OptimizationFault α)
      (result : Except ε β) : Except (OptimizationStop α) β :=
    result.mapError fun error => .failed ⟨fault error, seed, config, history⟩
  let profile ← failing [] .configuration checked
  let service := surroundings.service
  let history : History := [.schema]
  let schema ← failing history .catalog (service.schema [])
  let history : History := .catalog :: history
  let catalog ← failing history .catalog (service.catalog [.schema])
  let dataset ← (synthesize task schema config.dataset (surroundings.source seed)).mapError fun
    | .failed error => .failed ⟨.synthesis error, seed, config, history⟩
    | .panicked => .panicked history
  let intents := inferIntents task schema
  let root ← failing history .blueprint (rootBlueprint task config intents catalog)
  let evaluator ← failing history .configuration
    (Evaluator.ofConfig service surroundings.judges config.search)
  let problem := SearchProblem.ofDataset evaluator config.search task dataset intents catalog
    surroundings.cancellation
  let outcome ← (problem.run root (surroundings.source seed) history).mapError fun failure =>
    .failed ⟨.search failure.error, seed, config, failure.history⟩
  match outcome.best? with
  | none => throw (.failed ⟨.search .missingBest, seed, config, outcome.final.history⟩)
  | some best =>
    let (testSummary, history) := testEvaluation evaluator surroundings.cancellation dataset
      config.search.testBudget best.blueprint outcome.final.history
    return { seed, profile, config, datasetReport := dataset.report, intents, best, testSummary,
             outcome, history }

end WorkflowSearch
