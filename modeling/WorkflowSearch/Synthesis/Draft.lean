import Std.Data.TreeSet
import WorkflowSearch.Random.Source
import WorkflowSearch.Schema
import WorkflowSearch.Synthesis.Template
import WorkflowSearch.Text.Blank
import WorkflowSearch.Text.Lowercase

namespace WorkflowSearch

structure Draft where
  question : String
  expected : String
  intent : Intent
  templateId : String
  paraphrased : Bool
  hardNegative : Bool
  deriving DecidableEq

/-- The question up to case and white space. -/
def normalizedQuestion (question : String) : String :=
  " ".intercalate ((Text.words question).map Text.lowercase)

/-- The drafts admitted in one phase, and the questions and counts of all phases so far. -/
structure DraftPool where
  admitted : Array Draft
  seen : Std.TreeSet String
  rendered : Nat
  duplicates : Nat

namespace DraftPool

def empty : DraftPool :=
  ⟨#[], ∅, 0, 0⟩

def drafts (pool : DraftPool) : List Draft :=
  pool.admitted.toList

def size (pool : DraftPool) : Nat :=
  pool.admitted.size

def nextPhase (pool : DraftPool) : DraftPool :=
  { pool with admitted := #[] }

/-- Adds a draft unless its question has been seen. -/
def add : DraftPool → Draft → DraftPool
  | ⟨admitted, seen, rendered, duplicates⟩, draft =>
    match seen.containsThenInsert (normalizedQuestion draft.question) with
    | (true, seen) => ⟨admitted, seen, rendered + 1, duplicates + 1⟩
    | (false, seen) => ⟨admitted.push draft, seen, rendered + 1, duplicates⟩

end DraftPool

structure IntentPlan where
  intent : Intent
  templates : List Template

def attemptsPerCase : Nat := 4

def expectedAnswer (intent : Intent) (label relation : Option String) : String :=
  intent.name ++ ": " ++ " ".intercalate ([label, relation].filterMap id)

def Template.draft (t : Template) (intent : Intent) (label relation : Option String) : Draft where
  question := t.render label relation
  expected := expectedAnswer intent label relation
  intent := intent
  templateId := t.id
  paraphrased := false
  hardNegative := false

section Random

variable {σ : Type} [RandomSource σ]

open RandomSource (choose? coin)

def chooseSlot (needed : Bool) (terms : List String) (source : σ) : Option String × σ :=
  if needed then choose? terms source else (none, source)

/-- One random question of a plan, and with an even chance its paraphrase. -/
def draftPositive (schema : Schema) (paraphrase : Bool) (plan : IntentPlan) (pool : DraftPool)
    (source : σ) : DraftPool × σ :=
  match choose? plan.templates source with
  | (none, source) => (pool, source)
  | (some template, source) =>
    let (label, source) := chooseSlot template.needsLabel schema.entities source
    let (relation, source) := chooseSlot template.needsRelation schema.relations source
    let draft := template.draft plan.intent label relation
    let (again, source) := if paraphrase then coin (UInt64.size / 2) source else (false, source)
    let variant := if again then paraphrase? draft.question else none
    let pool := pool.add draft
    match variant with
    | some question => (pool.add { draft with question, paraphrased := true }, source)
    | none => (pool, source)

/-- Random questions, the plans in turn. Every plan gets an attempt; after that the target ends the
attempts. -/
def draftPositives (schema : Schema) (paraphrase : Bool) (plans : Array IntentPlan)
    (target : Nat) : (remaining attempt : Nat) → DraftPool → σ → DraftPool × σ
  | 0, _, pool, source => (pool, source)
  | remaining + 1, attempt, pool, source =>
    if target ≤ pool.size ∧ plans.size ≤ attempt then (pool, source)
    else
      match plans[attempt % plans.size]? with
      | none => (pool, source)
      | some plan =>
        let (pool, source) := draftPositive schema paraphrase plan pool source
        draftPositives schema paraphrase plans target remaining (attempt + 1) pool source

def draftNegatives (schema : Schema) (fabricated : List String) (intents : Array Intent)
    (target : Nat) : (remaining attempt : Nat) → DraftPool → σ → DraftPool × σ
  | 0, _, pool, source => (pool, source)
  | remaining + 1, attempt, pool, source =>
    if target ≤ pool.size then (pool, source)
    else
      let (subject, source) := choose? schema.entities source
      let (relation, source) := choose? fabricated source
      let (object, source) := choose? schema.entities source
      match subject, relation, object, intents[attempt % intents.size]? with
      | some subject, some relation, some object, some intent =>
        let pool := pool.add
          { question := hardNegativeQuestion subject relation object
            expected := "UNKNOWN"
            intent
            templateId := hardNegativeTemplate
            paraphrased := false
            hardNegative := true }
        draftNegatives schema fabricated intents target remaining (attempt + 1) pool source
      | _, _, _, _ => (pool, source)

end Random

def slotBindings (needed : Bool) (terms : List String) : List (Option String) :=
  if needed then terms.map some else [none]

def allPositives (schema : Schema) (plans : List IntentPlan) : List Draft :=
  plans.flatMap fun plan => plan.templates.flatMap fun template =>
    (slotBindings template.needsLabel schema.entities).flatMap fun label =>
      (slotBindings template.needsRelation schema.relations).map fun relation =>
        template.draft plan.intent label relation

def DraftPool.sweep (target : Nat) : List Draft → DraftPool → DraftPool
  | [], pool => pool
  | draft :: rest, pool =>
    if target ≤ pool.size then pool else sweep target rest (pool.add draft)

/-- The fabricated relations that equal no relation of the schema, up to ASCII case. -/
def usableFabricated (schema : Schema) : List String :=
  fabricatedRelations.filter fun candidate =>
    !schema.relations.any fun relation => Text.lowerAscii relation == Text.lowerAscii candidate

end WorkflowSearch
