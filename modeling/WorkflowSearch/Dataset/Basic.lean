import WorkflowSearch.Scalar.Basic

namespace WorkflowSearch

inductive Split where
  | train
  | validation
  | test
  deriving DecidableEq

namespace Split

def all : List Split :=
  [.train, .validation, .test]

def name : Split → String
  | .train => "train"
  | .validation => "validation"
  | .test => "test"

end Split

structure PerSplit (β : Type) where
  train : β
  validation : β
  test : β

namespace PerSplit

variable {β : Type}

def get (p : PerSplit β) : Split → β
  | .train => p.train
  | .validation => p.validation
  | .test => p.test

def modify (p : PerSplit β) (f : β → β) : Split → PerSplit β
  | .train => { p with train := f p.train }
  | .validation => { p with validation := f p.validation }
  | .test => { p with test := f p.test }

end PerSplit

inductive Intent where
  | query
  | analytics
  | modeling
  | ingest
  | qa
  deriving DecidableEq

namespace Intent

def all : List Intent :=
  [.query, .analytics, .modeling, .ingest, .qa]

def name : Intent → String
  | .query => "query"
  | .analytics => "analytics"
  | .modeling => "modeling"
  | .ingest => "import"
  | .qa => "qa"

def capabilityTags : Intent → List String
  | .query => ["query", "cypher"]
  | .analytics => ["analysis", "algorithm", "rank"]
  | .modeling => ["modeling", "schema"]
  | .ingest => ["import", "etl"]
  | .qa => ["qa", "retrieval"]

def keywords : Intent → List String
  | .query => ["query", "find", "lookup", "match", "cypher", "search"]
  | .analytics => ["analytics", "rank", "pagerank", "centrality", "community", "risk"]
  | .modeling => ["model", "modeling", "schema", "design", "ontology"]
  | .ingest => ["import", "ingest", "load", "csv", "etl"]
  | .qa => ["qa", "question", "answer", "explain", "knowledge"]

end Intent

inductive Difficulty where
  | l1
  | l2
  | l3
  | l4
  deriving DecidableEq

namespace Difficulty

def all : List Difficulty :=
  [.l1, .l2, .l3, .l4]

def name : Difficulty → String
  | .l1 => "L1"
  | .l2 => "L2"
  | .l3 => "L3"
  | .l4 => "L4"

def cycle (index : Nat) : Difficulty :=
  match index % 4 with
  | 0 => .l1
  | 1 => .l2
  | 2 => .l3
  | _ => .l4

end Difficulty

structure CaseOrigin where
  templateId : String
  paraphrased : Bool
  hardNegative : Bool
  difficulty : Difficulty
  deriving DecidableEq

structure Case where
  id : String
  question : String
  expected : String
  intent : Intent
  split : Split
  origin : CaseOrigin
  deriving DecidableEq

variable {α : Type}

structure SynthesisReport (α : Type) where
  requestedSize : Nat
  finalSize : Nat
  intents : List Intent
  sampledLabels : List String
  sampledRelations : List String
  hardNegativeCount : Nat
  hardNegativeRatio : α
  paraphraseCount : Nat
  /-- The share of rendered questions that were dropped as duplicates. -/
  dedupRate : α
  intentCoverage : List (Intent × Nat)
  splitSizes : List (Split × Nat)

def SynthesisReport.empty [Zero α] : SynthesisReport α where
  requestedSize := 0
  finalSize := 0
  intents := []
  sampledLabels := []
  sampledRelations := []
  hardNegativeCount := 0
  hardNegativeRatio := 0
  paraphraseCount := 0
  dedupRate := 0
  intentCoverage := []
  splitSizes := []

structure Dataset (α : Type) where
  cases : List Case
  report : SynthesisReport α

/-- Keeps a case while its split has budget left; a split without a budget is kept whole. -/
def takeWithin (budgets : PerSplit (Option Nat)) (taken : PerSplit Nat) :
    List Case → List Case
  | [] => []
  | c :: cs =>
    let taken := taken.modify (· + 1) c.split
    let kept :=
      match budgets.get c.split with
      | none => true
      | some budget => decide (taken.get c.split ≤ budget)
    if kept then c :: takeWithin budgets taken cs else takeWithin budgets taken cs

namespace Dataset

def ofSplit (dataset : Dataset α) (split : Split) : List Case :=
  dataset.cases.filter (·.split == split)

def sliced (dataset : Dataset α) (budgets : PerSplit (Option Nat)) : Dataset α :=
  { dataset with cases := takeWithin budgets ⟨0, 0, 0⟩ dataset.cases }

end Dataset

end WorkflowSearch
