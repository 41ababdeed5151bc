import WorkflowSearch.Config.Json
import WorkflowSearch.Optimization.Basic
import WorkflowSearch.Search.Json

namespace WorkflowSearch

variable {σ : Type}

namespace OptimizationResult

def toJson (result : OptimizationResult Double σ) : Json :=
  let final := result.outcome.final
  .obj [("seed", .nat result.seed), ("profile", Json.option (.str ·.name) result.profile),
    ("config", result.config.toJson), ("dataset_report", result.datasetReport.toJson),
    ("intents", .arr (result.intents.map Intent.toJson)),
    ("best_blueprint", result.best.blueprint.toJson),
    ("best_selection_score", .float final.bestSelection),
    ("train_summary", result.best.train.toJson), ("val_summary", result.best.validation.toJson),
    ("test_summary", Json.option Summary.toJson result.testSummary),
    ("degraded", .bool result.degraded),
    ("round_traces", .arr (final.traces.map TraceEntry.toJson)),
    ("prompt_variants", .arr (final.context.variants.map PromptVariant.toJson)),
    ("tool_gains", final.context.gains.toJson),
    ("stop_reason", .str result.outcome.stopReason.name),
    ("rounds_completed", .nat result.outcome.roundsCompleted),
    ("nodes_explored", .nat final.tree.size)]

end OptimizationResult

end WorkflowSearch
