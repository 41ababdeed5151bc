import WorkflowSearch.Config.Basic
import WorkflowSearch.Text.Blank
import WorkflowSearch.Text.Lowercase

namespace WorkflowSearch

variable {α : Type} [Scalar α]

inductive ConfigError (α : Type) where
  | outOfRange (field detail : String)
  | splitRatios (ratios : SplitRatios α)
  | inconsistent (reason : String)
  | unknownName (kind value : String)
  | unreadableFile (path : String)
  | malformedDocument
  | notANumber (key value : String)

def ConfigError.message : ConfigError α → String
  | .outOfRange field detail => field ++ " out of range: " ++ detail
  | .splitRatios r =>
    "split ratios must be positive and sum to 1.0, got " ++ Scalar.text r.train ++ "+" ++
      Scalar.text r.val ++ "+" ++ Scalar.text r.test
  | .inconsistent reason => "invalid configuration: " ++ reason
  | .unknownName kind value => "unknown " ++ kind ++ ": " ++ value
  | .unreadableFile path => "failed to read configuration: " ++ path ++ ": os error"
  | .malformedDocument => "failed to parse configuration: TOML parse error"
  | .notANumber key value =>
    "failed to parse configuration: " ++ key ++ "=" ++ value ++ " is not a valid number"

def ConfigError.kind : ConfigError α → String
  | .outOfRange .. => "OutOfRange"
  | .splitRatios _ => "InvalidSplitRatios"
  | .inconsistent _ => "Invalid"
  | .unknownName .. => "UnknownName"
  | .unreadableFile _ => "Io"
  | .malformedDocument | .notANumber .. => "Parse"

abbrev Checked (α : Type) := Except (ConfigError α)

def requireRange (field : String) (holds : Bool) (detail : String) : Checked α Unit :=
  if holds then .ok () else .error (.outOfRange field detail)

def requireNonZero (field : String) (n : Nat) : Checked α Unit :=
  requireRange field (n ≠ 0) "must be > 0"

def isWithin (lo hi a : α) : Bool :=
  decide (lo ≤ a) && decide (a ≤ hi)

namespace ObjectiveWeights

def validate (w : ObjectiveWeights α) : Checked α Unit := do
  [("objective.confidence", w.confidence), ("objective.latency", w.latency),
    ("objective.cost", w.cost), ("objective.complexity", w.complexity),
    ("objective.uncertainty", w.uncertainty),
    ("objective.generalization", w.generalization)].forM fun (field, value) =>
      requireRange field (Scalar.isNonNegative value)
        ("must be a finite value >= 0, got " ++ Scalar.text value)
  [("objective.latency_scale_ms", w.latencyScaleMs),
    ("objective.token_cost_scale", w.tokenCostScale)].forM fun (field, value) =>
      requireRange field (Scalar.isPositive value) ("must be > 0, got " ++ Scalar.text value)

end ObjectiveWeights

/-- Positive shares that sum to one, up to a millionth. -/
def SplitRatios.validate (r : SplitRatios α) : Checked α Unit :=
  let shares := [r.train, r.val, r.test]
  let distance := Scalar.abs (Scalar.sum shares - 1.0)
  if shares.all Scalar.isPositive ∧ ¬ (1e-6 : α) < distance then .ok ()
  else .error (.splitRatios r)

def DatasetConfig.validate (c : DatasetConfig α) : Checked α Unit := do
  requireRange "dataset.min_size" (c.minSize ≠ 0 && c.minSize ≤ c.maxSize)
    ("must be > 0 and <= max_size (" ++ toString c.maxSize ++ "), got " ++ toString c.minSize)
  requireRange "dataset.target_size" (c.minSize ≤ c.targetSize && c.targetSize ≤ c.maxSize)
    ("must be within [" ++ toString c.minSize ++ ", " ++ toString c.maxSize ++ "], got " ++
      toString c.targetSize)
  requireNonZero "dataset.min_per_split" c.minPerSplit
  c.splitRatios.validate
  requireRange "dataset.hard_negative_ratio" (isWithin 0 0.5 c.hardNegativeRatio)
    ("must be within [0, 0.5], got " ++ Scalar.text c.hardNegativeRatio)

def EvaluationConfig.validate (c : EvaluationConfig α) : Checked α Unit := do
  requireNonZero "evaluation.max_concurrency" c.maxConcurrency
  requireNonZero "evaluation.call_timeout_ms" c.callTimeoutMs
  if c.maxBackoffMs < c.initialBackoffMs then
    throw (.inconsistent ("evaluation.initial_backoff_ms (" ++ toString c.initialBackoffMs ++
      ") exceeds max_backoff_ms (" ++ toString c.maxBackoffMs ++ ")"))
  requireRange "evaluation.invalid_fraction_threshold" (isWithin 0 1 c.invalidFractionThreshold)
    ("must be within [0, 1], got " ++ Scalar.text c.invalidFractionThreshold)
  if c.judges.isEmpty then
    throw (.inconsistent "evaluation.judges must name at least one judge")
  c.judges.forM fun judge =>
    let weight := c.judgeWeights.weight judge
    requireRange "evaluation.judge_weights" (Scalar.isPositive weight)
      ("weight of " ++ judge.name ++ " must be > 0, got " ++ Scalar.text weight)

def SearchConfig.validate (c : SearchConfig α) : Checked α Unit := do
  [("search.rounds", c.rounds), ("search.expansions_per_round", c.expansionsPerRound),
    ("search.patience", c.patience), ("search.initial_tool_count", c.initialToolCount),
    ("search.max_children", c.maxChildren),
    ("search.tool_removal_min_observations", c.toolRemovalMinObservations),
    ("search.train_budget", c.trainBudget), ("search.validation_budget", c.validationBudget),
    ("search.test_budget", c.testBudget)].forM fun (field, value) => requireNonZero field value
  requireRange "search.max_prompt_candidates"
    (2 ≤ c.maxPromptCandidates && c.maxPromptCandidates ≤ 8)
    ("must be within [2, 8], got " ++ toString c.maxPromptCandidates)
  requireRange "search.min_improvement" (Scalar.isPositive c.minImprovement)
    ("must be > 0, got " ++ Scalar.text c.minImprovement)
  [("search.exploration_weight", c.explorationWeight),
    ("search.novelty_weight", c.noveltyWeight)].forM fun (field, value) =>
      requireRange field (Scalar.isNonNegative value) ("must be >= 0, got " ++ Scalar.text value)
  requireRange "search.tool_gain_decay"
    (decide (0 ≤ c.toolGainDecay) && decide (c.toolGainDecay < 1))
    ("must be within [0, 1), got " ++ Scalar.text c.toolGainDecay)
  requireRange "search.low_score_threshold" (isWithin 0 1 c.lowScoreThreshold)
    ("must be within [0, 1], got " ++ Scalar.text c.lowScoreThreshold)
  unless c.enablePromptMutation || c.enableToolMutation || c.enableTopologyMutation do
    throw (.inconsistent "at least one mutation family must be enabled")
  c.objective.validate
  c.evaluation.validate

def BackendConfig.validate (c : BackendConfig) : Checked α Unit := do
  if c.kind = .external ∧ c.baseUrl.isEmpty then
    throw (.inconsistent "runtime.base_url is required for the external backend")
  requireNonZero "runtime.circuit_failure_threshold" c.circuitFailureThreshold
  requireRange "runtime.request_timeout_ms" (c.requestTimeoutMs ≠ 0 && c.circuitResetMs ≠ 0)
    "timeouts must be > 0"

def ObservabilityConfig.validate (c : ObservabilityConfig) : Checked α Unit :=
  if ["trace", "debug", "info", "warn", "error"].contains (Text.lowercase c.logLevel) then .ok ()
  else .error (.unknownName "log level" c.logLevel)

def Config.validate (c : Config α) : Checked α Unit := do
  if (Text.trim c.appName).isEmpty then
    throw (.inconsistent "app_name must not be empty")
  c.dataset.validate
  c.search.validate
  c.backend.validate
  c.observability.validate

end WorkflowSearch
