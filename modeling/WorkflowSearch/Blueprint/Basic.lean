import WorkflowSearch.Mutation
import WorkflowSearch.Schema
import WorkflowSearch.Scalar.Basic

namespace WorkflowSearch

inductive Role where
  | solver
  | planner
  | worker
  | reviewer
  | router
  | branch
  | synthesizer
  deriving DecidableEq

namespace Role

def all : List Role :=
  [.solver, .planner, .worker, .reviewer, .router, .branch, .synthesizer]

def name : Role → String
  | .solver => "solver"
  | .planner => "planner"
  | .worker => "worker"
  | .reviewer => "reviewer"
  | .router => "router"
  | .branch => "branch"
  | .synthesizer => "synthesizer"

def isVerifier : Role → Bool
  | .reviewer | .synthesizer => true
  | _ => false

def isExecutor : Role → Bool
  | .solver | .worker | .branch => true
  | _ => false

end Role

structure Operator where
  name : String
  role : Role
  prompt : String
  outputSchema : String
  tools : List String
  deriving DecidableEq

structure Edge where
  source : String
  target : String
  deriving DecidableEq

/-- The contents of a blueprint, sound or not. -/
structure Parts where
  id : String
  appName : String
  task : String
  topology : Topology
  operators : List Operator
  edges : List Edge
  tools : List Tool
  parentId : Option String
  /-- The mutations that lead from the root to this blueprint. -/
  lineage : List Mutation
  deriving DecidableEq

inductive BlueprintError where
  | noOperators
  | duplicateOperator (name : String)
  | duplicateTool (id : String)
  | danglingTool (operator tool : String)
  | danglingOperator (name : String)
  deriving DecidableEq

def BlueprintError.kind : BlueprintError → String
  | .noOperators => "NoOperators"
  | .duplicateOperator _ => "DuplicateOperator"
  | .duplicateTool _ => "DuplicateTool"
  | .danglingTool .. => "DanglingTool"
  | .danglingOperator _ => "DanglingOperator"

def BlueprintError.message : BlueprintError → String
  | .noOperators => "blueprint has no operators"
  | .duplicateOperator name => "duplicate operator: " ++ name
  | .duplicateTool id => "duplicate tool: " ++ id
  | .danglingTool operator tool => "operator " ++ operator ++ " references unknown tool " ++ tool
  | .danglingOperator name => "topology references unknown operator " ++ name

def firstRepeated? (seen : List String) : List String → Option String
  | [] => none
  | s :: rest => if seen.contains s then some s else firstRepeated? (s :: seen) rest

namespace Parts

/-- Looks at the operators in order: first at the name, then at the tools. -/
def operatorFault? (toolIds seen : List String) : List Operator → Option BlueprintError
  | [] => none
  | op :: rest =>
    if seen.contains op.name then some (.duplicateOperator op.name)
    else
      match op.tools.find? (!toolIds.contains ·) with
      | some tool => some (.danglingTool op.name tool)
      | none => operatorFault? toolIds (op.name :: seen) rest

/-- The first fault: of the operator list, the tool set, each operator, and the wires in order. -/
def fault? (parts : Parts) : Option BlueprintError :=
  let toolIds := parts.tools.map (·.id)
  let names := parts.operators.map (·.name)
  let ends := parts.edges.flatMap fun e => [e.source, e.target]
  if parts.operators.isEmpty then some .noOperators
  else (firstRepeated? [] toolIds).map .duplicateTool
    <|> operatorFault? toolIds [] parts.operators
    <|> (ends.find? (!names.contains ·)).map .danglingOperator

end Parts

structure Blueprint where
  parts : Parts
  sound : parts.fault? = none
  deriving DecidableEq

namespace Blueprint

def ofParts (parts : Parts) : Except BlueprintError Blueprint :=
  match h : parts.fault? with
  | none => .ok ⟨parts, h⟩
  | some error => .error error

def operator? (blueprint : Blueprint) (name : String) : Option Operator :=
  blueprint.parts.operators.find? (·.name == name)

def hasTool (blueprint : Blueprint) (id : String) : Bool :=
  blueprint.parts.tools.any (·.id == id)

def hasVerifier (blueprint : Blueprint) : Bool :=
  blueprint.parts.operators.any (·.role.isVerifier)

/-- A tenth of the number of operators and tools and the weight of the topology. -/
def complexity {α : Type} [Scalar α] (blueprint : Blueprint) : α :=
  let parts := blueprint.parts
  ((parts.operators.length : α) + (parts.tools.length : α) + (parts.topology.weight : α)) / 10.0

end Blueprint

end WorkflowSearch
