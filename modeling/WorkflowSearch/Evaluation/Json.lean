import WorkflowSearch.Dataset.Json
import WorkflowSearch.Evaluation.Summary

namespace WorkflowSearch

namespace CaseOutput

def toJson (output : CaseOutput Double) : Json :=
  .obj [("raw_output", .str output.rawOutput), ("latency_ms", .float output.latencyMs),
    ("token_cost", .float output.tokenCost)]

def ofJson? : Json → Option (CaseOutput Double) :=
  Json.asRecord? do
    let rawOutput ← .required "raw_output" Json.asStr?
    let latencyMs ← .required "latency_ms" Json.asDouble?
    let tokenCost ← .required "token_cost" Json.asDouble?
    return { rawOutput, latencyMs, tokenCost }

end CaseOutput

namespace JudgeVote

def toJson (vote : JudgeVote Double) : Json :=
  .obj [("judge", .str vote.judge.name), ("score", .float vote.score),
    ("rationale", .str vote.rationale)]

def ofJson? : Json → Option (JudgeVote Double) :=
  Json.asRecord? do
    let judge ← .required "judge" (Json.asName? JudgeKind.all JudgeKind.name)
    let score ← .required "score" Json.asDouble?
    let rationale ← .required "rationale" Json.asStr?
    return { judge, score, rationale }

end JudgeVote

namespace Execution

def members (execution : Execution Double) : List (String × Json) :=
  [("case_id", .str execution.caseId), ("split", execution.split.toJson),
    ("hard_negative", .bool execution.hardNegative), ("question", .str execution.question),
    ("output", execution.output.toJson), ("votes", .arr (execution.votes.map JudgeVote.toJson)),
    ("score", .float execution.score), ("confidence", .float execution.confidence),
    ("agreement", .float execution.agreement), ("rationale", .str execution.rationale),
    ("attempts", .nat execution.attempts)]

def reader : Json.RecordReader (Execution Double) := do
  let caseId ← .required "case_id" Json.asStr?
  let split ← .required "split" Split.ofJson?
  let hardNegative ← .required "hard_negative" Json.asBool?
  let question ← .required "question" Json.asStr?
  let output ← .required "output" CaseOutput.ofJson?
  let votes ← .required "votes" (Json.asList? JudgeVote.ofJson?)
  let score ← .required "score" Json.asDouble?
  let confidence ← .required "confidence" Json.asDouble?
  let agreement ← .required "agreement" Json.asDouble?
  let rationale ← .required "rationale" Json.asStr?
  let attempts ← .required "attempts" (Json.asWord? 32)
  return { caseId, split, hardNegative, question, output, votes, score, confidence, agreement,
           rationale, attempts }

def ofJson? : Json → Option (Execution Double) :=
  Json.asRecord? reader

end Execution

namespace InvalidCase

def members (case : InvalidCase) : List (String × Json) :=
  [("case_id", .str case.caseId), ("split", case.split.toJson), ("reason", .str case.reason),
    ("detail", .str case.detail), ("attempts", .nat case.attempts)]

def reader : Json.RecordReader InvalidCase := do
  let caseId ← .required "case_id" Json.asStr?
  let split ← .required "split" Split.ofJson?
  let reason ← .required "reason" Json.asStr?
  let detail ← .required "detail" Json.asStr?
  let attempts ← .required "attempts" (Json.asWord? 32)
  return { caseId, split, reason, detail, attempts }

end InvalidCase

namespace CaseOutcome

def toJson : CaseOutcome Double → Json
  | .scored execution => .obj (("outcome", .str "scored") :: execution.members)
  | .invalid case => .obj (("outcome", .str "invalid") :: case.members)

def ofJson? : Json → Option (CaseOutcome Double) :=
  Json.asRecord? do
    match ← .required "outcome" Json.asStr? with
    | "scored" => return .scored (← Execution.reader)
    | "invalid" => return .invalid (← InvalidCase.reader)
    | _ => none

end CaseOutcome

namespace FailureHistogram

def toJson (histogram : FailureHistogram) : Json :=
  .obj (histogram.map fun (category, n) => (category.name, .nat n))

end FailureHistogram

namespace FailureSignal

def toJson (signal : FailureSignal) : Json :=
  .obj [("case_id", .str signal.caseId), ("category", .str signal.category.name),
    ("severity", .str signal.severity.name), ("signal", .str signal.keyword)]

end FailureSignal

namespace Reflection

def toJson (reflection : Reflection) : Json :=
  .obj [("low_score_count", .nat reflection.lowScoreCount),
    ("categories", reflection.categories.toJson),
    ("dominant", Json.option (.str ·.name) reflection.dominant),
    ("abstention_failures", .nat reflection.abstentionFailures),
    ("failure_keywords", .strs reflection.remedies), ("snippets", .strs reflection.snippets),
    ("text", .str reflection.text)]

def ofJson? : Json → Option Reflection :=
  Json.asRecord? do
    let category := Json.asName? FailureCategory.all FailureCategory.name
    let lowScoreCount ← .required "low_score_count" (Json.asWord? 64)
    let categories ← .required "categories" (Json.asMap? category (Json.asWord? 64))
    let dominant ← .optional "dominant" category
    let abstentionFailures ← .required "abstention_failures" (Json.asWord? 64)
    let remedies ← .required "failure_keywords" (Json.asList? Json.asStr?)
    let snippets ← .required "snippets" (Json.asList? Json.asStr?)
    let text ← .required "text" Json.asStr?
    return { lowScoreCount, categories, dominant, abstentionFailures, remedies, snippets, text }

end Reflection

namespace Summary

def toJson (summary : Summary Double) : Json :=
  .obj [("blueprint_id", .str summary.blueprintId), ("split", summary.split.toJson),
    ("case_count", .nat summary.caseCount), ("invalid_count", .nat summary.invalidCount),
    ("invalid_fraction", .float summary.invalidFraction), ("degraded", .bool summary.degraded),
    ("mean_score", .float summary.meanScore), ("score_std", .float summary.scoreStd),
    ("mean_latency_ms", .float summary.meanLatencyMs),
    ("mean_token_cost", .float summary.meanTokenCost),
    ("mean_confidence", .float summary.meanConfidence),
    ("mean_agreement", .float summary.meanAgreement), ("complexity", .float summary.complexity),
    ("uncertainty", .float summary.uncertainty), ("objective", .float summary.objective),
    ("failure_histogram", summary.failures.toJson), ("reflection", .str summary.reflection),
    ("outcomes", .arr (summary.outcomes.map CaseOutcome.toJson))]

end Summary

end WorkflowSearch
