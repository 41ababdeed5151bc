import WorkflowSearch.Blueprint.Wiring
import WorkflowSearch.Evaluation.Summary
import WorkflowSearch.Search.Families
import WorkflowSearch.Search.Prompt
import WorkflowSearch.Search.ToolRanking

namespace WorkflowSearch

variable {α σ : Type} [Scalar α]

/-- What a run accumulates besides its tree. -/
structure SearchContext (α σ : Type) where
  gains : ToolGains α
  variants : List (PromptVariant α)
  source : σ
  /-- The number of the next child blueprint. -/
  nextBlueprint : Nat

def blueprintId (number : Nat) : String :=
  Text.numbered "bp-" number

namespace SearchContext

def initial (source : σ) : SearchContext α σ where
  gains := []
  variants := []
  source := source
  nextBlueprint := 1

def nextBlueprintId (context : SearchContext α σ) : String × SearchContext α σ :=
  (blueprintId context.nextBlueprint,
    { context with nextBlueprint := context.nextBlueprint + 1 })

end SearchContext

structure Mutator (α : Type) where
  config : SearchConfig α
  task : String
  intents : List Intent
  catalog : List Tool

namespace Parts

def derived (parts : Parts) (parentId childId : String) (mutation : Mutation) : Parts :=
  { parts with
    id := childId
    parentId := some parentId
    lineage := parts.lineage ++ [mutation] }

def withoutTool (parts : Parts) (id : String) : Parts :=
  { parts with
    tools := parts.tools.filter (·.id ≠ id)
    operators := parts.operators.map fun op => { op with tools := op.tools.filter (· ≠ id) } }

def executorIndex (parts : Parts) : Nat :=
  (parts.operators.findIdx? (·.role.isExecutor)).getD 0

def withTool (parts : Parts) (tool : Tool) (index : Nat) : Parts :=
  { parts with
    tools := parts.tools ++ [tool]
    operators := parts.operators.modify index fun op => { op with tools := op.tools ++ [tool.id] } }

def boundTools (parts : Parts) : List String :=
  (parts.tools.map (·.id)).filter fun id => parts.operators.any (·.tools.contains id)

/-- The operator that the next prompt revision of a lineage is for: all in turn. -/
def revisionIndex (parts : Parts) : Nat :=
  let revisions := parts.lineage.countP fun m => m.family = .prompt
  revisions % parts.operators.length

end Parts

inductive Duty where
  | execute
  | verify
  | coordinate
  deriving DecidableEq

def Role.duty (role : Role) : Duty :=
  if role.isExecutor then .execute
  else if role.isVerifier then .verify
  else .coordinate

/-- The sections that the first operator of a duty with any sections has learned. -/
def inheritedSections (operators : List Operator) (duty : Duty) : String :=
  let learned := (operators.filter (·.role.duty = duty)).map fun op => learnedSections op.prompt
  (learned.find? (!·.isEmpty)).getD ""

namespace Parts

/-- The operators of the next mode with the tools in use, and with the sections learned by operators
of the same duty. -/
def switched (parts : Parts) : Parts :=
  let mode := parts.topology.next
  let operators := (mode.operators parts.boundTools).map fun op =>
    { op with prompt := op.prompt ++ inheritedSections parts.operators op.role.duty }
  { parts with topology := mode, operators, edges := wire mode operators }

end Parts

namespace Mutator

def derive (parent : Blueprint) (parts : Parts) (childId : String) (mutation : Mutation) :
    Except BlueprintError (Blueprint × Mutation) :=
  (Blueprint.ofParts (parts.derived parent.parts.id childId mutation)).map (·, mutation)

/-- Revises the prompt of one operator to the best of the recorded variants. -/
def revisePrompt (mutator : Mutator α) (parent : Blueprint) (parentTrain : Summary α)
    (childId : String) (context : SearchContext α σ) :
    Except BlueprintError (Blueprint × Mutation) × SearchContext α σ :=
  let parts := parent.parts
  let index := parts.revisionIndex
  match parts.operators[index]? with
  | none => (.error .noOperators, context)
  | some op =>
    let request : RevisionRequest :=
      { blueprintId := childId
        operator := op.name
        prompt := op.prompt
        reflection := reflect (parentTrain.lowScoring mutator.config.lowScoreThreshold)
        task := mutator.task }
    let variants := request.variants mutator.config.maxPromptCandidates context.variants.length
    let context := { context with variants := context.variants ++ variants }
    let variant := request.choose context.variants.length variants
    let operators := parts.operators.set index { op with prompt := variant.prompt }
    (derive parent { parts with operators } childId (.promptRevision op.name variant.id), context)

/-- The tool of the lowest gain, of equals the smallest id, among those observed often enough with a
gain at or below the threshold. -/
def weakestTool? (config : SearchConfig α) (gains : ToolGains α) (tools : List Tool) :
    Option String :=
  let weak := (tools.map (·.id)).filter fun id =>
    config.toolRemovalMinObservations ≤ gains.observations id ∧
      gains.gain id ≤ config.toolRemovalThreshold
  let weaker (a b : String) : Bool :=
    (Scalar.order (gains.gain a) (gains.gain b)).then (compare a b) = .lt
  match weak with
  | [] => none
  | first :: rest => some (rest.foldl (fun best id => if weaker id best then id else best) first)

inductive ToolChange where
  | add (tool : Tool)
  | remove (id : String)
  | keep

/-- With more than one tool, a weak one is removed; else the best tool of the catalog that is
missing is added; else the worst of more than one tool is removed. -/
def toolChange (mutator : Mutator α) (parent : Blueprint) (gains : ToolGains α) : ToolChange :=
  let config := mutator.config
  let tools := parent.parts.tools
  let gains := if config.enableToolHistoricalGain then gains else []
  let weakest? :=
    if config.enableToolHistoricalGain ∧ 1 < tools.length then weakestTool? config gains tools
    else none
  match weakest? with
  | some id => .remove id
  | none =>
    let ranked := rankTools mutator.task mutator.intents gains mutator.catalog
    match ranked.find? (!parent.hasTool ·.id) with
    | some tool => .add tool
    | none =>
      if tools.length ≤ 1 then .keep
      else
        match ranked.reverse.find? (parent.hasTool ·.id) with
        | some tool => .remove tool.id
        | none => .keep

def changeTools (mutator : Mutator α) (parent : Blueprint) (childId : String)
    (gains : ToolGains α) : Except BlueprintError (Blueprint × Mutation) :=
  let parts := parent.parts
  match mutator.toolChange parent gains with
  | .remove id => derive parent (parts.withoutTool id) childId (.toolRemove id)
  | .keep => derive parent parts childId .toolNoop
  | .add tool =>
    let index := parts.executorIndex
    match parts.operators[index]? with
    | none => .error .noOperators
    | some op => derive parent (parts.withTool tool index) childId (.toolAdd tool.id op.name)

def switchTopology (parent : Blueprint) (childId : String) :
    Except BlueprintError (Blueprint × Mutation) :=
  let mode := parent.parts.topology
  derive parent parent.parts.switched childId (.topologySwitch mode mode.next)

def apply (mutator : Mutator α) (family : MutationFamily) (parent : Blueprint)
    (parentTrain : Summary α) (childId : String) (context : SearchContext α σ) :
    Except BlueprintError (Blueprint × Mutation) × SearchContext α σ :=
  match family with
  | .prompt => mutator.revisePrompt parent parentTrain childId context
  | .tool => (mutator.changeTools parent childId context.gains, context)
  | .topology => (switchTopology parent childId, context)

end Mutator

end WorkflowSearch
