import WorkflowSearch.Blueprint.Document
import WorkflowSearch.Service.Basic

namespace WorkflowSearch

/-- A document and the file that takes it, relative to its destination. -/
structure Artifact where
  blueprintId : String
  file : String
  content : String

namespace Artifact

def ofBlueprint (blueprint : Blueprint) : Artifact where
  blueprintId := blueprint.parts.id
  file := "workflow.json"
  content := blueprint.documentText

def format : String := "json"

def bytes (artifact : Artifact) : Nat :=
  artifact.content.utf8ByteSize

def unwritable (destination : String) : ServiceError :=
  .invocation (destination ++ ": os error")

end Artifact

end WorkflowSearch
