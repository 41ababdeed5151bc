import WorkflowSearch.Dataset.Basic
import WorkflowSearch.Schema
import WorkflowSearch.Search.ToolGains
import WorkflowSearch.Text.Search

namespace WorkflowSearch

variable {α : Type} [Scalar α]

def Intent.toolKeywords : Intent → List String
  | .query => ["query", "cypher", "schema", "search"]
  | .analytics => ["algorithm", "analysis", "rank", "community"]
  | .modeling => ["schema", "model", "label", "vertex", "edge"]
  | .ingest => ["import", "ingest", "extract", "etl"]
  | .qa => ["retrieval", "knowledge", "browser", "search"]

/-- A keyword counts two when the tool has it, and one when the task has it. -/
def keywordScore (task tool keyword : String) : α :=
  (if Text.contains tool keyword then 2.0 else 0) + (if Text.contains task keyword then 1.0 else 0)

/-- The keywords of all intents, and ten times the gain of the tool. -/
def toolScore (task : String) (intents : List Intent) (gains : ToolGains α) (tool : Tool) : α :=
  let task := Text.lowercase task
  let text := tool.searchText
  Scalar.sum ((intents.flatMap Intent.toolKeywords).map (keywordScore task text)) +
    10.0 * gains.gain tool.id

def precedes (a b : α × Tool) : Bool :=
  ((Scalar.order b.1 a.1).then (compare a.2.id b.2.id)).isLE

def rankTools (task : String) (intents : List Intent) (gains : ToolGains α) (catalog : List Tool) :
    List Tool :=
  let scored := catalog.map fun tool => (toolScore task intents gains tool, tool)
  (scored.mergeSort precedes).map (·.2)

end WorkflowSearch
