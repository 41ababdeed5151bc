import WorkflowSearch.Dataset.Basic
import WorkflowSearch.Json.Decode

namespace WorkflowSearch

namespace Split

def toJson (split : Split) : Json :=
  .str split.name

def ofJson? : Json → Option Split :=
  Json.asName? all name

end Split

namespace Intent

def toJson (intent : Intent) : Json :=
  .str intent.name

def ofJson? : Json → Option Intent :=
  Json.asName? all name

end Intent

namespace CaseOrigin

def toJson (origin : CaseOrigin) : Json :=
  .obj [("template_id", .str origin.templateId), ("paraphrased", .bool origin.paraphrased),
    ("hard_negative", .bool origin.hardNegative), ("difficulty", .str origin.difficulty.name)]

def ofJson? : Json → Option CaseOrigin :=
  Json.asRecord? do
    let templateId ← .required "template_id" Json.asStr?
    let paraphrased ← .required "paraphrased" Json.asBool?
    let hardNegative ← .required "hard_negative" Json.asBool?
    let difficulty ← .required "difficulty" (Json.asName? Difficulty.all Difficulty.name)
    return ⟨templateId, paraphrased, hardNegative, difficulty⟩

end CaseOrigin

namespace Case

def toJson (c : Case) : Json :=
  .obj [("id", .str c.id), ("question", .str c.question), ("expected", .str c.expected),
    ("intent", c.intent.toJson), ("split", c.split.toJson), ("lineage", c.origin.toJson)]

def ofJson? : Json → Option Case :=
  Json.asRecord? do
    let id ← .required "id" Json.asStr?
    let question ← .required "question" Json.asStr?
    let expected ← .required "expected" Json.asStr?
    let intent ← .required "intent" Intent.ofJson?
    let split ← .required "split" Split.ofJson?
    let origin ← .required "lineage" CaseOrigin.ofJson?
    return ⟨id, question, expected, intent, split, origin⟩

end Case

def SynthesisReport.toJson (report : SynthesisReport Double) : Json :=
  .obj [("requested_size", .nat report.requestedSize), ("final_size", .nat report.finalSize),
    ("intents", .arr (report.intents.map Intent.toJson)),
    ("sampled_labels", .strs report.sampledLabels),
    ("sampled_relations", .strs report.sampledRelations),
    ("hard_negative_count", .nat report.hardNegativeCount),
    ("hard_negative_ratio", .float report.hardNegativeRatio),
    ("paraphrase_count", .nat report.paraphraseCount), ("dedup_rate", .float report.dedupRate),
    ("intent_coverage", .obj (report.intentCoverage.map fun (i, n) => (i.name, .nat n))),
    ("split_sizes", .obj (report.splitSizes.map fun (s, n) => (s.name, .nat n)))]

end WorkflowSearch
