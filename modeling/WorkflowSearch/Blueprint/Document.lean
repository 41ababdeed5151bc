import WorkflowSearch.Blueprint.Basic
import WorkflowSearch.Json.Printer

namespace WorkflowSearch.Blueprint

def documentVersion : String := "0.1.0"

def document (blueprint : Blueprint) : Json :=
  let parts := blueprint.parts
  .obj [
    ("app", .obj [("name", .str parts.appName), ("desc", .str parts.task),
      ("version", .str documentVersion)]),
    ("blueprint", .obj [("id", .str parts.id), ("parent", Json.option .str parts.parentId),
      ("lineage", .strs (parts.lineage.map Mutation.text))]),
    ("tools", .arr (parts.tools.map fun tool =>
      .obj [("name", .str tool.id), ("desc", .str tool.description), ("tags", .strs tool.tags)])),
    ("operators", .arr (parts.operators.map fun op =>
      .obj [("name", .str op.name), ("role", .str op.role.name), ("instruction", .str op.prompt),
        ("output_schema", .str op.outputSchema), ("tools", .strs op.tools)])),
    ("topology", .obj [("mode", parts.topology.toJson),
      ("edges", .arr (parts.edges.map fun e => .strs [e.source, e.target]))])]

def documentText (blueprint : Blueprint) : String :=
  blueprint.document.canonical.pretty

end WorkflowSearch.Blueprint
