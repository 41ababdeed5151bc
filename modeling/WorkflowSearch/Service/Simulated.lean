import WorkflowSearch.Service.Basic
import WorkflowSearch.Text.Tokens

namespace WorkflowSearch

def simulatedSchema : Schema where
  entities := ["Person", "Account", "Loan", "Transaction"]
  relations := ["OWNS", "TRANSFERS", "BORROWS", "DEPOSITS_TO"]

def simulatedCatalog : List Tool :=
  [⟨"SchemaGetter", ["schema", "query"], "Read graph schema"⟩,
    ⟨"CypherExecutor", ["query", "cypher"], "Execute Cypher query"⟩,
    ⟨"PageRankExecutor", ["analysis", "algorithm", "rank"], "Run PageRank analytics"⟩,
    ⟨"KnowledgeBaseRetriever", ["qa", "retrieval"], "Retrieve external knowledge"⟩,
    ⟨"ImportPlanner", ["import", "etl"], "Plan bulk data import"⟩,
    ⟨"SchemaDesigner", ["modeling", "schema"], "Design graph schema"⟩]

def questionTerms (schema : Schema) (question : String) : List String :=
  let words := (Text.pieces (!Text.isWordChar ·) question.toList).map String.ofList
  (schema.entities ++ schema.relations).filter words.contains

namespace Blueprint

/-- Whether the workflow declines questions that have no answer. -/
def declines (blueprint : Blueprint) : Bool :=
  blueprint.hasVerifier ||
    blueprint.parts.operators.any fun op => Text.contains (Text.lowercase op.prompt) "unknown"

/-- The first tool bound to an operator that has a tag of the intent. -/
def servingTool? (blueprint : Blueprint) (intent : Intent) : Option String :=
  let bound := blueprint.parts.operators.flatMap (·.tools)
  let tools := bound.filterMap fun id => blueprint.parts.tools.find? (·.id == id)
  (tools.find? fun tool => tool.tags.any intent.capabilityTags.contains).map (·.id)

end Blueprint

def simulatedAnswer (schema : Schema) (blueprint : Blueprint) (case : Case) : String :=
  let terms := questionTerms schema case.question
  let subject := " ".intercalate terms
  if case.origin.hardNegative then
    if blueprint.declines then
      "UNKNOWN: the schema has no such edge, so the answer cannot be inferred"
    else case.intent.name ++ ": " ++ subject ++ " has 3 matching records"
  else
    match blueprint.servingTool? case.intent with
    | some tool => case.intent.name ++ ": " ++ subject ++ " (evidence from " ++ tool ++ ")"
    | none =>
      "missing tool for " ++ case.intent.name ++ "; best guess about " ++
        terms.headD "the graph"

variable {α : Type} [Scalar α]

def simulatedOutput (schema : Schema) (blueprint : Blueprint) (case : Case) : CaseOutput α :=
  let answer := simulatedAnswer schema blueprint case
  let operators : α := (blueprint.parts.operators.length : α)
  let tools : α := (blueprint.parts.tools.length : α)
  let words : α := ((Text.words answer).length : α)
  { rawOutput := answer
    latencyMs := 40.0 + 15.0 * operators + 5.0 * tools
    tokenCost := 0.001 * (words + 20.0 * operators) }

def Service.simulated (schema : Schema) (catalog : List Tool) : Service α where
  schema _ := .ok schema
  catalog _ := .ok catalog
  execute _ blueprint case := ⟨0, .ok (simulatedOutput schema blueprint case)⟩

end WorkflowSearch
