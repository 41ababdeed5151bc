import WorkflowSearch.Dataset.Basic
import WorkflowSearch.Schema
import WorkflowSearch.Text.Tokens

namespace WorkflowSearch

/-- Every intent with a keyword among the words of the task, in the order of the vocabulary. Without
a keyword, a task that names a schema term is a query, and any other is a query or an analysis. -/
def inferIntents (task : String) (schema : Schema) : List Intent :=
  let words := Text.tokens task
  let intents := Intent.all.filter fun intent => intent.keywords.any words.contains
  if !intents.isEmpty then intents
  else if words.any schema.terms.contains then [.query]
  else [.query, .analytics]

end WorkflowSearch
