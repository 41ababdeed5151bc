import WorkflowSearch.Json.Decode

namespace WorkflowSearch

inductive Topology where
  | linear
  | plannerWorkerReviewer
  | routerParallel
  deriving DecidableEq

namespace Topology

def all : List Topology :=
  [.linear, .plannerWorkerReviewer, .routerParallel]

def name : Topology → String
  | .linear => "linear"
  | .plannerWorkerReviewer => "planner_worker_reviewer"
  | .routerParallel => "router_parallel"

def weight : Topology → Nat
  | .linear => 0
  | .plannerWorkerReviewer => 1
  | .routerParallel => 2

def next : Topology → Topology
  | .linear => .plannerWorkerReviewer
  | .plannerWorkerReviewer => .routerParallel
  | .routerParallel => .linear

def toJson (mode : Topology) : Json :=
  .str mode.name

def ofJson? : Json → Option Topology :=
  Json.asName? all name

end Topology

inductive MutationFamily where
  | prompt
  | tool
  | topology
  deriving DecidableEq

namespace MutationFamily

def all : List MutationFamily :=
  [.prompt, .tool, .topology]

def name : MutationFamily → String
  | .prompt => "prompt"
  | .tool => "tool"
  | .topology => "topology"

end MutationFamily

inductive Mutation where
  | promptRevision (operator variantId : String)
  | toolAdd (tool operator : String)
  | toolRemove (tool : String)
  | toolNoop
  | topologySwitch (before after : Topology)
  deriving DecidableEq

namespace Mutation

def family : Mutation → MutationFamily
  | .promptRevision .. => .prompt
  | .toolAdd .. | .toolRemove _ | .toolNoop => .tool
  | .topologySwitch .. => .topology

/-- Whether the tool set or the topology changed. -/
def isStructural : Mutation → Bool
  | .toolAdd .. | .toolRemove _ | .topologySwitch .. => true
  | .promptRevision .. | .toolNoop => false

def text : Mutation → String
  | .promptRevision operator variantId => "prompt:rewrite(" ++ operator ++ "," ++ variantId ++ ")"
  | .toolAdd tool operator => "tool:add(" ++ tool ++ "->" ++ operator ++ ")"
  | .toolRemove tool => "tool:remove(" ++ tool ++ ")"
  | .toolNoop => "tool:noop"
  | .topologySwitch before after => "topology:switch(" ++ before.name ++ "->" ++ after.name ++ ")"

def toJson : Mutation → Json
  | .promptRevision operator variantId =>
    .obj [("kind", .str "prompt_rewrite"), ("operator", .str operator),
      ("variant_id", .str variantId)]
  | .toolAdd tool operator =>
    .obj [("kind", .str "tool_add"), ("tool", .str tool), ("operator", .str operator)]
  | .toolRemove tool => .obj [("kind", .str "tool_remove"), ("tool", .str tool)]
  | .toolNoop => .obj [("kind", .str "tool_noop")]
  | .topologySwitch before after =>
    .obj [("kind", .str "topology_switch"), ("from", before.toJson), ("to", after.toJson)]

def ofJson? : Json → Option Mutation :=
  Json.asRecord? do
    match ← .required "kind" Json.asStr? with
    | "prompt_rewrite" =>
      let operator ← .required "operator" Json.asStr?
      let variantId ← .required "variant_id" Json.asStr?
      return .promptRevision operator variantId
    | "tool_add" =>
      let tool ← .required "tool" Json.asStr?
      let operator ← .required "operator" Json.asStr?
      return .toolAdd tool operator
    | "tool_remove" =>
      let tool ← .required "tool" Json.asStr?
      return .toolRemove tool
    | "tool_noop" => return .toolNoop
    | "topology_switch" =>
      let before ← .required "from" Topology.ofJson?
      let after ← .required "to" Topology.ofJson?
      return .topologySwitch before after
    | _ => none

end Mutation

end WorkflowSearch
