import WorkflowSearch.Text.Alphanumeric
import WorkflowSearch.Text.Lowercase
import WorkflowSearch.Text.Blank
import WorkflowSearch.Text.Search

namespace WorkflowSearch.Text

def isWordChar (c : Char) : Bool :=
  isAlphanumeric c || c = '_'

/-- The maximal runs of word characters, in lower case. -/
def tokens (text : String) : List String :=
  (runs isWordChar text.toList).map fun run => lowercase (.ofList run)

def normalize (text : String) : String :=
  " ".intercalate (tokens text)

/-- Whether a normalized text contains a phrase as whole words. -/
def containsPhrase (normalized phrase : String) : Bool :=
  let phrase := normalize phrase
  if phrase.isEmpty then false
  else contains (" " ++ normalized ++ " ") (" " ++ phrase ++ " ")

def abstentionMarkers : List String :=
  ["unknown", "cannot be inferred", "cannot be answered", "not enough information"]

def abstains (answer : String) : Bool :=
  abstentionMarkers.any (containsPhrase (normalize answer))

end WorkflowSearch.Text
