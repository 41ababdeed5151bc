import WorkflowSearch.Service.Simulated
import WorkflowSearch.Tally
import WorkflowSearch.Text.Numbered

namespace WorkflowSearch

variable {α : Type} [Scalar α]

def fixtureQuestion (intent : Intent) (entity relation : String) : String :=
  match intent with
  | .query => "Find each " ++ entity ++ " connected through " ++ relation
  | .analytics => "Rank every " ++ entity ++ " by " ++ relation ++ " degree"
  | .modeling => "Design constraints for " ++ entity ++ " along " ++ relation
  | .ingest => "Plan an import of " ++ entity ++ " records with " ++ relation ++ " edges"
  | .qa => "Explain what " ++ relation ++ " means for a " ++ entity

/-- Intents, entities and relations take turns; every seventh case is a hard negative. -/
def fixtureCase (index : Nat) (split : Split) : Case :=
  let entities := simulatedSchema.entities
  let relations := simulatedSchema.relations
  let entity := entities.getD (index % entities.length) ""
  let other := entities.getD ((index + 1) % entities.length) ""
  let relation := relations.getD (index / entities.length % relations.length) ""
  let intent := Intent.all.getD (index % Intent.all.length) .query
  let hardNegative := index % 7 = 6
  { id := Text.numbered "case-" index
    question :=
      if hardNegative then
        "Which " ++ entity ++ " MENTORS a " ++ other ++ ", and through how many hops?"
      else fixtureQuestion intent entity relation
    expected :=
      if hardNegative then "UNKNOWN" else intent.name ++ ": " ++ entity ++ " " ++ relation
    intent
    split
    origin :=
      { templateId := if hardNegative then "hard-negative" else "fixture-" ++ intent.name
        paraphrased := false
        hardNegative
        difficulty := .cycle index } }

def fixtureDataset (size : Nat) : Dataset α :=
  let cases := (List.range size).map fun index =>
    let place := index % 5
    fixtureCase index (if place < 3 then .train else if place = 3 then .validation else .test)
  let coverage := tally Intent.all (cases.map (·.intent))
  let hardNegatives := cases.countP (·.origin.hardNegative)
  { cases
    report :=
      { SynthesisReport.empty with
        requestedSize := size
        finalSize := size
        intents := coverage.map (·.1)
        hardNegativeCount := hardNegatives
        hardNegativeRatio := share hardNegatives size
        intentCoverage := coverage
        splitSizes := tally Split.all (cases.map (·.split)) } }

end WorkflowSearch
