namespace WorkflowSearch.Text

/-- What follows the first occurrence of a text, the occurrence included. -/
def findFrom? (needle : List Char) : List Char → Option (List Char)
  | [] => if needle.isEmpty then some [] else none
  | c :: cs => if needle.isPrefixOf (c :: cs) then some (c :: cs) else findFrom? needle cs

def contains (text needle : String) : Bool :=
  (findFrom? needle.toList text.toList).isSome

def replaceChars (old new : List Char) : List Char → List Char
  | [] => []
  | c :: cs =>
    if old.isPrefixOf (c :: cs) then new ++ replaceChars old new (cs.drop (old.length - 1))
    else c :: replaceChars old new cs
termination_by cs => cs.length
decreasing_by all_goals simp; try omega

def replace (text old new : String) : String :=
  .ofList (replaceChars old.toList new.toList text.toList)

def afterStart? (start text : String) : Option String :=
  if start.toList.isPrefixOf text.toList then some (.ofList (text.toList.drop start.length))
  else none

end WorkflowSearch.Text
