import WorkflowSearch.Blueprint.Basic
import WorkflowSearch.Objective

namespace WorkflowSearch

variable {α : Type} [Scalar α]

inductive Environment where
  | development
  | staging
  | production
  deriving DecidableEq

namespace Environment

def all : List Environment :=
  [.development, .staging, .production]

def name : Environment → String
  | .development => "development"
  | .staging => "staging"
  | .production => "production"

def isProduction : Environment → Bool
  | .production => true
  | _ => false

end Environment

inductive JudgeKind where
  | rule
  | heuristic
  | rubric
  deriving DecidableEq

namespace JudgeKind

def all : List JudgeKind :=
  [.rule, .heuristic, .rubric]

def name : JudgeKind → String
  | .rule => "rule"
  | .heuristic => "heuristic"
  | .rubric => "llm_rubric"

end JudgeKind

structure SplitRatios (α : Type) where
  train : α
  val : α
  test : α

structure DatasetConfig (α : Type) where
  targetSize : Nat
  minSize : Nat
  maxSize : Nat
  splitRatios : SplitRatios α
  minPerSplit : Nat
  hardNegativeRatio : α
  paraphrase : Bool
  hardNegatives : Bool

def DatasetConfig.default : DatasetConfig α where
  targetSize := 12
  minSize := 6
  maxSize := 30
  splitRatios := ⟨0.6, 0.2, 0.2⟩
  minPerSplit := 1
  hardNegativeRatio := 0.2
  paraphrase := true
  hardNegatives := true

/-- How the rubric judge reaches its model. The key is never written. -/
structure RubricConfig where
  baseUrl : String
  model : String
  maxTokens : Nat
  apiKey : Option String

def RubricConfig.default : RubricConfig where
  baseUrl := "https://api.anthropic.com"
  model := "claude-sonnet-4-5-20250929"
  maxTokens := 256
  apiKey := none

structure JudgeWeights (α : Type) where
  rule : α
  heuristic : α
  rubric : α

namespace JudgeWeights

def default : JudgeWeights α :=
  ⟨1.0, 1.0, 1.0⟩

def weight (w : JudgeWeights α) : JudgeKind → α
  | .rule => w.rule
  | .heuristic => w.heuristic
  | .rubric => w.rubric

end JudgeWeights

structure EvaluationConfig (α : Type) where
  maxConcurrency : Nat
  maxRetries : Nat
  initialBackoffMs : Nat
  maxBackoffMs : Nat
  callTimeoutMs : Nat
  /-- A summary with a greater share of invalid cases is degraded. -/
  invalidFractionThreshold : α
  judges : List JudgeKind
  judgeWeights : JudgeWeights α
  rubric : RubricConfig

def EvaluationConfig.default : EvaluationConfig α where
  maxConcurrency := 4
  maxRetries := 2
  initialBackoffMs := 50
  maxBackoffMs := 1000
  callTimeoutMs := 30000
  invalidFractionThreshold := 0.5
  judges := [.rule, .heuristic]
  judgeWeights := .default
  rubric := .default

structure SearchConfig (α : Type) where
  rounds : Nat
  expansionsPerRound : Nat
  explorationWeight : α
  noveltyWeight : α
  minImprovement : α
  patience : Nat
  useHoldout : Bool
  failureAwareScheduling : Bool
  enablePromptMutation : Bool
  enableToolMutation : Bool
  enableTopologyMutation : Bool
  enableToolHistoricalGain : Bool
  toolGainDecay : α
  toolRemovalThreshold : α
  toolRemovalMinObservations : Nat
  lowScoreThreshold : α
  maxPromptCandidates : Nat
  initialToolCount : Nat
  initialTopology : Topology
  maxChildren : Nat
  trainBudget : Nat
  validationBudget : Nat
  testBudget : Nat
  objective : ObjectiveWeights α
  evaluation : EvaluationConfig α

def SearchConfig.default : SearchConfig α where
  rounds := 10
  expansionsPerRound := 3
  explorationWeight := 1.2
  noveltyWeight := 0.15
  minImprovement := 0.005
  patience := 3
  useHoldout := true
  failureAwareScheduling := true
  enablePromptMutation := true
  enableToolMutation := true
  enableTopologyMutation := true
  enableToolHistoricalGain := true
  toolGainDecay := 0.7
  toolRemovalThreshold := -0.01
  toolRemovalMinObservations := 2
  lowScoreThreshold := 0.6
  maxPromptCandidates := 4
  initialToolCount := 3
  initialTopology := .plannerWorkerReviewer
  maxChildren := 8
  trainBudget := 8
  validationBudget := 8
  testBudget := 8
  objective := .default
  evaluation := .default

inductive BackendKind where
  | mock
  | external
  deriving DecidableEq

namespace BackendKind

def all : List BackendKind :=
  [.mock, .external]

def name : BackendKind → String
  | .mock => "mock"
  | .external => "external"

end BackendKind

structure BackendConfig where
  kind : BackendKind
  baseUrl : String
  requestTimeoutMs : Nat
  circuitFailureThreshold : Nat
  circuitResetMs : Nat

def BackendConfig.default : BackendConfig where
  kind := .mock
  baseUrl := "http://127.0.0.1:8080"
  requestTimeoutMs := 30000
  circuitFailureThreshold := 5
  circuitResetMs := 30000

structure ObservabilityConfig where
  logLevel : String
  metricsEnabled : Bool
  metricsPort : Nat

def ObservabilityConfig.default : ObservabilityConfig where
  logLevel := "info"
  metricsEnabled := false
  metricsPort := 9090

structure Config (α : Type) where
  environment : Environment
  appName : String
  profile : Option String
  dataset : DatasetConfig α
  search : SearchConfig α
  backend : BackendConfig
  observability : ObservabilityConfig

namespace Config

def default : Config α where
  environment := .development
  appName := "flowforge"
  profile := none
  dataset := .default
  search := .default
  backend := .default
  observability := .default

def ofEnvironment (environment : Environment) : Config α :=
  let config : Config α := { default with environment }
  match environment with
  | .development => { config with observability.logLevel := "debug" }
  | .staging => { config with observability.metricsEnabled := true }
  | .production =>
    { config with
      observability.logLevel := "warn"
      observability.metricsEnabled := true
      backend.circuitFailureThreshold := 3 }

end Config

end WorkflowSearch
