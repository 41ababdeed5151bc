import WorkflowSearch.Synthesis.Intents
import WorkflowSearch.Synthesis.Splits
import WorkflowSearch.Tally
import WorkflowSearch.Text.Numbered
import WorkflowSearch.Text.Tokens

namespace WorkflowSearch

variable {α σ : Type} [Scalar α] [RandomSource σ]

/-- The plans of the intents, or the first intent that no template of the schema serves. -/
def intentPlans (schema : Schema) (intents : List Intent) :
    Except SynthesisError (List IntentPlan) :=
  intents.mapM fun intent =>
    let usable := intent.templates.filter
      (·.isRenderable (!schema.entities.isEmpty) (!schema.relations.isEmpty))
    if usable.isEmpty then .error (.insufficientCoverage intent) else .ok ⟨intent, usable⟩

/-- The rounded share of the target, and no more than half of it. -/
def hardNegativeTarget (config : DatasetConfig α) : Nat :=
  if config.hardNegatives then
    let share := (config.targetSize : α) * Scalar.clamp 0 1 config.hardNegativeRatio
    min (Scalar.roundNat share) (config.targetSize / 2)
  else 0

def synthesizeNegatives (schema : Schema) (intents : List Intent) (target : Nat) (source : σ) :
    DraftPool × σ :=
  let fabricated := usableFabricated schema
  if schema.entities.isEmpty ∨ fabricated.isEmpty then (.empty, source)
  else
    draftNegatives schema fabricated intents.toArray target (target * attemptsPerCase) 0 .empty
      source

/-- Random questions, completed in order if they fall short of the target. -/
def synthesizePositives (schema : Schema) (paraphrase : Bool) (plans : List IntentPlan)
    (target : Nat) (pool : DraftPool) (source : σ) : DraftPool × σ :=
  let attempts := max target plans.length * attemptsPerCase
  let (pool, source) :=
    draftPositives schema paraphrase plans.toArray target attempts 0 pool.nextPhase source
  if pool.size < target then (pool.sweep target (allPositives schema plans), source)
  else (pool, source)

def Draft.toCase (draft : Draft) (index : Nat) : Case where
  id := Text.numbered "case-" index
  question := draft.question
  expected := draft.expected
  intent := draft.intent
  split := .train
  origin :=
    { templateId := draft.templateId
      paraphrased := draft.paraphrased
      hardNegative := draft.hardNegative
      difficulty := .cycle index }

/-- The split of the case at an index, where the splits are filled in order. Cases that no split has
room for stay in the first. -/
def PerSplit.labelAt (sizes : PerSplit Nat) (index : Nat) : Split :=
  if index < sizes.train then .train
  else if index < sizes.train + sizes.validation then .validation
  else if index < sizes.train + sizes.validation + sizes.test then .test
  else .train

def assignSplits (drafts : List Draft) (sizes : PerSplit Nat) (source : σ) : List Case × σ :=
  let cases := drafts.zipIdx.map fun (draft, index) => draft.toCase index
  let (shuffled, source) := RandomSource.shuffle cases source
  (shuffled.mapIdx fun index c => { c with split := sizes.labelAt index }, source)

/-- The terms that occur as a word of a question. -/
def mentionedTerms (cases : List Case) (terms : List String) : List String :=
  terms.filter fun term =>
    let small := Text.lowercase term
    cases.any fun c => (Text.tokens c.question).contains small

def reportCases (schema : Schema) (requested : Nat) (intents : List Intent) (pool : DraftPool)
    (cases : List Case) : SynthesisReport α :=
  let hardNegatives := cases.countP (·.origin.hardNegative)
  { requestedSize := requested
    finalSize := cases.length
    intents
    sampledLabels := mentionedTerms cases schema.entities
    sampledRelations := mentionedTerms cases schema.relations
    hardNegativeCount := hardNegatives
    hardNegativeRatio := share hardNegatives cases.length
    paraphraseCount := cases.countP (·.origin.paraphrased)
    dedupRate := share pool.duplicates pool.rendered
    intentCoverage := tally Intent.all (cases.map (·.intent))
    splitSizes := tally Split.all (cases.map (·.split)) }

/-- A dataset of the target size: questions of every intent that the task asks for, and questions
that no answer can be grounded for. -/
def synthesize (task : String) (schema : Schema) (config : DatasetConfig α) (source : σ) :
    Except SynthesisStop (Dataset α) := do
  if schema.entities.isEmpty ∧ schema.relations.isEmpty then throw (.failed .emptySchema)
  let intents := inferIntents task schema
  let plans ← (intentPlans schema intents).mapError .failed
  let target := config.targetSize
  let (pool, source) := synthesizeNegatives schema intents (hardNegativeTarget config) source
  let negatives := pool.drafts
  let wanted := target - negatives.length
  let (pool, source) := synthesizePositives schema config.paraphrase plans wanted pool source
  let drafts := clipPreservingCoverage pool.drafts wanted ++ negatives
  let sizes ← splitSizes drafts.length config
  if drafts.length < target then throw (.failed (.insufficientCases target drafts.length))
  let (cases, _) := assignSplits drafts sizes source
  return ⟨cases, reportCases schema target intents pool cases⟩

end WorkflowSearch
