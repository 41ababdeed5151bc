import WorkflowSearch.Blueprint.Basic

namespace WorkflowSearch

namespace Operator

def toJson (op : Operator) : Json :=
  .obj [("name", .str op.name), ("role", .str op.role.name), ("prompt", .str op.prompt),
    ("output_schema", .str op.outputSchema), ("tools", .strs op.tools)]

def ofJson? : Json → Option Operator :=
  Json.asRecord? do
    let name ← .required "name" Json.asStr?
    let role ← .required "role" (Json.asName? Role.all Role.name)
    let prompt ← .required "prompt" Json.asStr?
    let outputSchema ← .required "output_schema" Json.asStr?
    let tools ← .required "tools" (Json.asList? Json.asStr?)
    return ⟨name, role, prompt, outputSchema, tools⟩

end Operator

namespace Edge

def toJson (edge : Edge) : Json :=
  .obj [("from", .str edge.source), ("to", .str edge.target)]

def ofJson? : Json → Option Edge :=
  Json.asRecord? do
    let source ← .required "from" Json.asStr?
    let target ← .required "to" Json.asStr?
    return ⟨source, target⟩

end Edge

namespace Parts

def toJson (parts : Parts) : Json :=
  .obj [("id", .str parts.id), ("app_name", .str parts.appName),
    ("task_description", .str parts.task), ("topology", parts.topology.toJson),
    ("operators", .arr (parts.operators.map Operator.toJson)),
    ("edges", .arr (parts.edges.map Edge.toJson)), ("tools", .arr (parts.tools.map Tool.toJson)),
    ("parent_id", Json.option .str parts.parentId),
    ("lineage", .arr (parts.lineage.map Mutation.toJson))]

def ofJson? : Json → Option Parts :=
  Json.asRecord? do
    let id ← .required "id" Json.asStr?
    let appName ← .required "app_name" Json.asStr?
    let task ← .required "task_description" Json.asStr?
    let topology ← .required "topology" Topology.ofJson?
    let operators ← .required "operators" (Json.asList? Operator.ofJson?)
    let edges ← .required "edges" (Json.asList? Edge.ofJson?)
    let tools ← .required "tools" (Json.asList? Tool.ofJson?)
    let parentId ← .optional "parent_id" Json.asStr?
    let lineage ← .required "lineage" (Json.asList? Mutation.ofJson?)
    return { id, appName, task, topology, operators, edges, tools, parentId, lineage }

end Parts

namespace Blueprint

def toJson (blueprint : Blueprint) : Json :=
  blueprint.parts.toJson

def ofJson? (j : Json) : Option Blueprint := do
  (ofParts (← Parts.ofJson? j)).toOption

end Blueprint

end WorkflowSearch
