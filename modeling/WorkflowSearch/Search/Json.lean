import WorkflowSearch.Blueprint.Json
import WorkflowSearch.Evaluation.Json
import WorkflowSearch.Json.Extended
import WorkflowSearch.Search.Run

namespace WorkflowSearch

namespace Node

def toJson (node : Node Double) : Json :=
  .obj [("id", .nat node.id), ("parent", Json.option .nat node.parent),
    ("children", .arr (node.children.map .nat)), ("visits", .nat node.visits),
    ("value_sum", .ofExtended node.valueSum), ("mean", .ofExtended node.meanValue),
    ("mutation", Json.option (.str ·.text) node.mutation)]

end Node

namespace ToolGains

def toJson (gains : ToolGains Double) : Json :=
  .obj [("gains", .obj (gains.map fun entry => (entry.tool, .float entry.gain))),
    ("observations", .obj (gains.map fun entry => (entry.tool, .nat entry.observations)))]

end ToolGains

namespace PromptVariant

def toJson (variant : PromptVariant Double) : Json :=
  .obj [("variant_id", .str variant.id), ("blueprint_id", .str variant.blueprintId),
    ("operator", .str variant.operator), ("source", .str variant.strategy.name),
    ("prompt", .str variant.prompt), ("score", .float variant.score),
    ("failure_keywords", .strs variant.keywords), ("length", .nat variant.length),
    ("selected", .bool variant.selected)]

end PromptVariant

namespace TraceEntry

def toJson (entry : TraceEntry Double) : Json :=
  .obj [("round", .nat entry.round), ("expansion", .nat entry.expansion),
    ("selected_node", .nat entry.selectedNode),
    ("selected_blueprint", .str entry.selectedBlueprint), ("child_node", .nat entry.childNode),
    ("child_blueprint", .str entry.childBlueprint), ("mutation", entry.mutation.toJson),
    ("train_objective", .float entry.trainObjective),
    ("val_objective", .float entry.valObjective),
    ("selection_score", .float entry.selectionScore),
    ("best_train_objective", .float entry.bestTrainObjective),
    ("best_selection_score", .float entry.bestSelectionScore),
    ("improvement", .float entry.improvement), ("regret", .float entry.regret),
    ("uncertainty", .float entry.uncertainty),
    ("generalization_gap", .float entry.generalizationGap),
    ("became_best", .bool entry.becameBest)]

end TraceEntry

end WorkflowSearch
