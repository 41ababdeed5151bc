import WorkflowSearch.Dataset.Basic
import WorkflowSearch.Text.Search

namespace WorkflowSearch

structure Template where
  id : String
  text : String
  deriving DecidableEq

namespace Template

def labelSlot : String := "\x7blabel\x7d"

def relationSlot : String := "\x7brelation\x7d"

def needsLabel (t : Template) : Bool :=
  Text.contains t.text labelSlot

def needsRelation (t : Template) : Bool :=
  Text.contains t.text relationSlot

def isRenderable (t : Template) (hasLabels hasRelations : Bool) : Bool :=
  (hasLabels || !t.needsLabel) && (hasRelations || !t.needsRelation)

/-- Fills the label slots, and then the relation slots of the result. -/
def render (t : Template) (label relation : Option String) : String :=
  let text :=
    match label with
    | some label => Text.replace t.text labelSlot label
    | none => t.text
  match relation with
  | some relation => Text.replace text relationSlot relation
  | none => text

end Template

def Intent.templates : Intent → List Template :=
  let label := Template.labelSlot
  let relation := Template.relationSlot
  fun
  | .query =>
    [⟨"query-path", "Find each " ++ label ++ " connected through " ++ relation ++
        " and list its key properties."⟩,
      ⟨"query-filter", "Which " ++ label ++ " records match a path over " ++ relation ++ "?"⟩,
      ⟨"query-scan", "List every " ++ label ++ " stored in the graph."⟩]
  | .analytics =>
    [⟨"analytics-rank", "Rank " ++ label ++ " nodes by influence along " ++ relation ++ " edges."⟩,
      ⟨"analytics-cluster",
        "Detect unusual clusters of " ++ label ++ " joined by " ++ relation ++ "."⟩,
      ⟨"analytics-degree", "Summarize degree statistics for " ++ relation ++ " edges."⟩]
  | .modeling =>
    [⟨"modeling-constraints",
        "Propose constraints for " ++ label ++ " and its " ++ relation ++ " relationship."⟩,
      ⟨"modeling-evolve",
        "Design a schema change for " ++ label ++ " that keeps " ++ relation ++ " consistent."⟩,
      ⟨"modeling-properties", "Describe the properties every " ++ label ++ " should carry."⟩]
  | .ingest =>
    [⟨"import-plan", "Plan a bulk load of " ++ label ++ " rows with " ++ relation ++ " edges."⟩,
      ⟨"import-validate", "Define checks to run before importing " ++ label ++ " linked by " ++
        relation ++ "."⟩,
      ⟨"import-map", "Map source columns onto " ++ relation ++ " edges."⟩]
  | .qa =>
    [⟨"qa-meaning", "Explain what " ++ relation ++ " means for a " ++ label ++ "."⟩,
      ⟨"qa-summary", "Give a short domain summary of " ++ label ++ " and " ++ relation ++ "."⟩,
      ⟨"qa-role", "Explain the role of " ++ label ++ " in this graph."⟩]

def verbSwaps : List (String × String) :=
  [("Find", "Locate"), ("Which", "What"), ("List", "Enumerate"), ("Rank", "Order"),
    ("Detect", "Spot"), ("Summarize", "Outline"), ("Propose", "Suggest"), ("Plan", "Draft"),
    ("Explain", "Clarify"), ("Give", "Provide")]

def paraphrase? (question : String) : Option String :=
  verbSwaps.findSome? fun (old, new) =>
    match Text.afterStart? old question with
    | some rest => if rest.toList.head? = some ' ' then some (new ++ rest) else none
    | none => none

def hardNegativeTemplate : String := "hard-negative"

def fabricatedRelations : List String :=
  ["MENTORS", "ORBITS", "INHERITS_FROM", "COMPOSED_OF"]

def hardNegativeQuestion (subject relation object : String) : String :=
  "Which " ++ subject ++ " " ++ relation ++ " a " ++ object ++ ", and through how many hops?"

end WorkflowSearch
