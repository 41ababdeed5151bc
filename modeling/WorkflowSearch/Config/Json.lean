import WorkflowSearch.Config.Basic
import WorkflowSearch.Json.Decode

namespace WorkflowSearch

open Json.RecordReader (defaulted required optional)

namespace ObjectiveWeights

def toJson (w : ObjectiveWeights Double) : Json :=
  .obj [("confidence", .float w.confidence), ("latency", .float w.latency),
    ("cost", .float w.cost), ("complexity", .float w.complexity),
    ("uncertainty", .float w.uncertainty), ("generalization", .float w.generalization),
    ("latency_scale_ms", .float w.latencyScaleMs),
    ("token_cost_scale", .float w.tokenCostScale)]

def ofJsonWith? (number : Json → Option Double) : Json → Option (ObjectiveWeights Double) :=
  Json.asRecord? do
    let d : ObjectiveWeights Double := .default
    let confidence ← defaulted "confidence" d.confidence number
    let latency ← defaulted "latency" d.latency number
    let cost ← defaulted "cost" d.cost number
    let complexity ← defaulted "complexity" d.complexity number
    let uncertainty ← defaulted "uncertainty" d.uncertainty number
    let generalization ← defaulted "generalization" d.generalization number
    let latencyScaleMs ← defaulted "latency_scale_ms" d.latencyScaleMs number
    let tokenCostScale ← defaulted "token_cost_scale" d.tokenCostScale number
    return { confidence, latency, cost, complexity, uncertainty, generalization, latencyScaleMs,
             tokenCostScale }

def ofJson? : Json → Option (ObjectiveWeights Double) :=
  ofJsonWith? Json.asDouble?

end ObjectiveWeights

namespace SplitRatios

def toJson (r : SplitRatios Double) : Json :=
  .obj [("train", .float r.train), ("val", .float r.val), ("test", .float r.test)]

def ofJson? : Json → Option (SplitRatios Double) :=
  Json.asRecord? do
    let train ← required "train" Json.asDouble?
    let val ← required "val" Json.asDouble?
    let test ← required "test" Json.asDouble?
    return { train, val, test }

end SplitRatios

namespace DatasetConfig

def toJson (c : DatasetConfig Double) : Json :=
  .obj [("target_size", .nat c.targetSize), ("min_size", .nat c.minSize),
    ("max_size", .nat c.maxSize), ("split_ratios", c.splitRatios.toJson),
    ("min_per_split", .nat c.minPerSplit), ("hard_negative_ratio", .float c.hardNegativeRatio),
    ("paraphrase", .bool c.paraphrase), ("hard_negatives", .bool c.hardNegatives)]

def ofJson? : Json → Option (DatasetConfig Double) :=
  Json.asRecord? do
    let d : DatasetConfig Double := .default
    let targetSize ← defaulted "target_size" d.targetSize (Json.asWord? 64)
    let minSize ← defaulted "min_size" d.minSize (Json.asWord? 64)
    let maxSize ← defaulted "max_size" d.maxSize (Json.asWord? 64)
    let splitRatios ← defaulted "split_ratios" d.splitRatios SplitRatios.ofJson?
    let minPerSplit ← defaulted "min_per_split" d.minPerSplit (Json.asWord? 64)
    let hardNegativeRatio ← defaulted "hard_negative_ratio" d.hardNegativeRatio Json.asDouble?
    let paraphrase ← defaulted "paraphrase" d.paraphrase Json.asBool?
    let hardNegatives ← defaulted "hard_negatives" d.hardNegatives Json.asBool?
    return { targetSize, minSize, maxSize, splitRatios, minPerSplit, hardNegativeRatio, paraphrase,
             hardNegatives }

end DatasetConfig

namespace RubricConfig

def toJson (c : RubricConfig) : Json :=
  .obj [("base_url", .str c.baseUrl), ("model", .str c.model), ("max_tokens", .nat c.maxTokens)]

def ofJson? : Json → Option RubricConfig :=
  Json.asRecord? do
    let d := RubricConfig.default
    let baseUrl ← defaulted "base_url" d.baseUrl Json.asStr?
    let model ← defaulted "model" d.model Json.asStr?
    let maxTokens ← defaulted "max_tokens" d.maxTokens (Json.asWord? 32)
    return { baseUrl, model, maxTokens, apiKey := none }

end RubricConfig

namespace JudgeKind

def toJson (kind : JudgeKind) : Json :=
  .str kind.name

def ofJson? : Json → Option JudgeKind :=
  Json.asName? all name

end JudgeKind

namespace JudgeWeights

def toJson (w : JudgeWeights Double) : Json :=
  .obj [("rule", .float w.rule), ("heuristic", .float w.heuristic),
    ("llm_rubric", .float w.rubric)]

def ofJsonWith? (number : Json → Option Double) : Json → Option (JudgeWeights Double) :=
  Json.asRecord? do
    let d : JudgeWeights Double := .default
    let rule ← defaulted "rule" d.rule number
    let heuristic ← defaulted "heuristic" d.heuristic number
    let rubric ← defaulted "llm_rubric" d.rubric number
    return { rule, heuristic, rubric }

def ofJson? : Json → Option (JudgeWeights Double) :=
  ofJsonWith? Json.asDouble?

end JudgeWeights

namespace EvaluationConfig

def toJson (c : EvaluationConfig Double) : Json :=
  .obj [("max_concurrency", .nat c.maxConcurrency), ("max_retries", .nat c.maxRetries),
    ("initial_backoff_ms", .nat c.initialBackoffMs), ("max_backoff_ms", .nat c.maxBackoffMs),
    ("call_timeout_ms", .nat c.callTimeoutMs),
    ("invalid_fraction_threshold", .float c.invalidFractionThreshold),
    ("judges", .arr (c.judges.map JudgeKind.toJson)), ("judge_weights", c.judgeWeights.toJson),
    ("rubric", c.rubric.toJson)]

def ofJson? : Json → Option (EvaluationConfig Double) :=
  Json.asRecord? do
    let d : EvaluationConfig Double := .default
    let maxConcurrency ← defaulted "max_concurrency" d.maxConcurrency (Json.asWord? 64)
    let maxRetries ← defaulted "max_retries" d.maxRetries (Json.asWord? 32)
    let initialBackoffMs ← defaulted "initial_backoff_ms" d.initialBackoffMs (Json.asWord? 64)
    let maxBackoffMs ← defaulted "max_backoff_ms" d.maxBackoffMs (Json.asWord? 64)
    let callTimeoutMs ← defaulted "call_timeout_ms" d.callTimeoutMs (Json.asWord? 64)
    let invalidFractionThreshold ←
      defaulted "invalid_fraction_threshold" d.invalidFractionThreshold Json.asDouble?
    let judges ← defaulted "judges" d.judges (Json.asList? JudgeKind.ofJson?)
    let judgeWeights ← defaulted "judge_weights" d.judgeWeights JudgeWeights.ofJson?
    let rubric ← defaulted "rubric" d.rubric RubricConfig.ofJson?
    return { maxConcurrency, maxRetries, initialBackoffMs, maxBackoffMs, callTimeoutMs,
             invalidFractionThreshold, judges, judgeWeights, rubric }

end EvaluationConfig

namespace SearchConfig

def toJson (c : SearchConfig Double) : Json :=
  .obj [("rounds", .nat c.rounds), ("expansions_per_round", .nat c.expansionsPerRound),
    ("exploration_weight", .float c.explorationWeight),
    ("novelty_weight", .float c.noveltyWeight), ("min_improvement", .float c.minImprovement),
    ("patience", .nat c.patience), ("use_holdout", .bool c.useHoldout),
    ("failure_aware_scheduling", .bool c.failureAwareScheduling),
    ("enable_prompt_mutation", .bool c.enablePromptMutation),
    ("enable_tool_mutation", .bool c.enableToolMutation),
    ("enable_topology_mutation", .bool c.enableTopologyMutation),
    ("enable_tool_historical_gain", .bool c.enableToolHistoricalGain),
    ("tool_gain_decay", .float c.toolGainDecay),
    ("tool_removal_threshold", .float c.toolRemovalThreshold),
    ("tool_removal_min_observations", .nat c.toolRemovalMinObservations),
    ("low_score_threshold", .float c.lowScoreThreshold),
    ("max_prompt_candidates", .nat c.maxPromptCandidates),
    ("initial_tool_count", .nat c.initialToolCount),
    ("initial_topology", c.initialTopology.toJson), ("max_children", .nat c.maxChildren),
    ("train_budget", .nat c.trainBudget), ("validation_budget", .nat c.validationBudget),
    ("test_budget", .nat c.testBudget), ("objective", c.objective.toJson),
    ("evaluation", c.evaluation.toJson)]

def ofJson? : Json → Option (SearchConfig Double) :=
  Json.asRecord? do
    let d : SearchConfig Double := .default
    let size := Json.asWord? 64
    let rounds ← defaulted "rounds" d.rounds size
    let expansionsPerRound ← defaulted "expansions_per_round" d.expansionsPerRound size
    let explorationWeight ← defaulted "exploration_weight" d.explorationWeight Json.asDouble?
    let noveltyWeight ← defaulted "novelty_weight" d.noveltyWeight Json.asDouble?
    let minImprovement ← defaulted "min_improvement" d.minImprovement Json.asDouble?
    let patience ← defaulted "patience" d.patience size
    let useHoldout ← defaulted "use_holdout" d.useHoldout Json.asBool?
    let failureAwareScheduling ←
      defaulted "failure_aware_scheduling" d.failureAwareScheduling Json.asBool?
    let enablePromptMutation ←
      defaulted "enable_prompt_mutation" d.enablePromptMutation Json.asBool?
    let enableToolMutation ← defaulted "enable_tool_mutation" d.enableToolMutation Json.asBool?
    let enableTopologyMutation ←
      defaulted "enable_topology_mutation" d.enableTopologyMutation Json.asBool?
    let enableToolHistoricalGain ←
      defaulted "enable_tool_historical_gain" d.enableToolHistoricalGain Json.asBool?
    let toolGainDecay ← defaulted "tool_gain_decay" d.toolGainDecay Json.asDouble?
    let toolRemovalThreshold ←
      defaulted "tool_removal_threshold" d.toolRemovalThreshold Json.asDouble?
    let toolRemovalMinObservations ←
      defaulted "tool_removal_min_observations" d.toolRemovalMinObservations size
    let lowScoreThreshold ← defaulted "low_score_threshold" d.lowScoreThreshold Json.asDouble?
    let maxPromptCandidates ← defaulted "max_prompt_candidates" d.maxPromptCandidates size
    let initialToolCount ← defaulted "initial_tool_count" d.initialToolCount size
    let initialTopology ← defaulted "initial_topology" d.initialTopology Topology.ofJson?
    let maxChildren ← defaulted "max_children" d.maxChildren size
    let trainBudget ← defaulted "train_budget" d.trainBudget size
    let validationBudget ← defaulted "validation_budget" d.validationBudget size
    let testBudget ← defaulted "test_budget" d.testBudget size
    let objective ← defaulted "objective" d.objective ObjectiveWeights.ofJson?
    let evaluation ← defaulted "evaluation" d.evaluation EvaluationConfig.ofJson?
    return { rounds, expansionsPerRound, explorationWeight, noveltyWeight, minImprovement,
             patience, useHoldout, failureAwareScheduling, enablePromptMutation,
             enableToolMutation, enableTopologyMutation, enableToolHistoricalGain, toolGainDecay,
             toolRemovalThreshold, toolRemovalMinObservations, lowScoreThreshold,
             maxPromptCandidates, initialToolCount, initialTopology, maxChildren, trainBudget,
             validationBudget, testBudget, objective, evaluation }

end SearchConfig

namespace BackendConfig

def toJson (c : BackendConfig) : Json :=
  .obj [("backend", .str c.kind.name), ("base_url", .str c.baseUrl),
    ("request_timeout_ms", .nat c.requestTimeoutMs),
    ("circuit_failure_threshold", .nat c.circuitFailureThreshold),
    ("circuit_reset_ms", .nat c.circuitResetMs)]

def ofJson? : Json → Option BackendConfig :=
  Json.asRecord? do
    let d := BackendConfig.default
    let kind ← defaulted "backend" d.kind (Json.asName? BackendKind.all BackendKind.name)
    let baseUrl ← defaulted "base_url" d.baseUrl Json.asStr?
    let requestTimeoutMs ← defaulted "request_timeout_ms" d.requestTimeoutMs (Json.asWord? 64)
    let circuitFailureThreshold ←
      defaulted "circuit_failure_threshold" d.circuitFailureThreshold (Json.asWord? 32)
    let circuitResetMs ← defaulted "circuit_reset_ms" d.circuitResetMs (Json.asWord? 64)
    return { kind, baseUrl, requestTimeoutMs, circuitFailureThreshold, circuitResetMs }

end BackendConfig

namespace ObservabilityConfig

def toJson (c : ObservabilityConfig) : Json :=
  .obj [("log_level", .str c.logLevel), ("metrics_enabled", .bool c.metricsEnabled),
    ("metrics_port", .nat c.metricsPort)]

def ofJson? : Json → Option ObservabilityConfig :=
  Json.asRecord? do
    let d := ObservabilityConfig.default
    let logLevel ← defaulted "log_level" d.logLevel Json.asStr?
    let metricsEnabled ← defaulted "metrics_enabled" d.metricsEnabled Json.asBool?
    let metricsPort ← defaulted "metrics_port" d.metricsPort (Json.asWord? 16)
    return { logLevel, metricsEnabled, metricsPort }

end ObservabilityConfig

namespace Config

def toJson (c : Config Double) : Json :=
  .obj [("environment", .str c.environment.name), ("app_name", .str c.appName),
    ("profile", Json.option .str c.profile), ("dataset", c.dataset.toJson),
    ("search", c.search.toJson), ("runtime", c.backend.toJson),
    ("observability", c.observability.toJson)]

def ofJson? : Json → Option (Config Double) :=
  Json.asRecord? do
    let d : Config Double := .default
    let environment ←
      defaulted "environment" d.environment (Json.asName? Environment.all Environment.name)
    let appName ← defaulted "app_name" d.appName Json.asStr?
    let profile ← defaulted "profile" d.profile (Json.asOption? Json.asStr?)
    let dataset ← defaulted "dataset" d.dataset DatasetConfig.ofJson?
    let search ← defaulted "search" d.search SearchConfig.ofJson?
    let backend ← defaulted "runtime" d.backend BackendConfig.ofJson?
    let observability ← defaulted "observability" d.observability ObservabilityConfig.ofJson?
    return { environment, appName, profile, dataset, search, backend, observability }

end Config

end WorkflowSearch
