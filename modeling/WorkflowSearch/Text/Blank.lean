import WorkflowSearch.Text.Ranges

namespace WorkflowSearch.Text

def blankRanges : CodeRanges :=
  #[(0x9, 0xD), (0x20, 0x20), (0x85, 0x85), (0xA0, 0xA0), (0x1680, 0x1680), (0x2000, 0x200A),
    (0x2028, 0x2029), (0x202F, 0x202F), (0x205F, 0x205F), (0x3000, 0x3000)]

/-- The Unicode property `White_Space`. -/
def isBlank (c : Char) : Bool :=
  blankRanges.contains c

def pieces (separates : Char → Bool) : List Char → List (List Char)
  | [] => [[]]
  | c :: cs =>
    if separates c then [] :: pieces separates cs
    else
      match pieces separates cs with
      | w :: ws => (c :: w) :: ws
      | [] => [[c]]

def runs (p : Char → Bool) (cs : List Char) : List (List Char) :=
  (pieces (!p ·) cs).filter (!·.isEmpty)

def dropEndWhile (p : Char → Bool) (cs : List Char) : List Char :=
  (cs.reverse.dropWhile p).reverse

def trimChars (cs : List Char) : List Char :=
  dropEndWhile isBlank (cs.dropWhile isBlank)

def trim (s : String) : String :=
  .ofList (trimChars s.toList)

def trimEnd (s : String) : String :=
  .ofList (dropEndWhile isBlank s.toList)

def words (s : String) : List String :=
  (runs (!isBlank ·) s.toList).map .ofList

def collapse (s : String) : String :=
  " ".intercalate (words s)

end WorkflowSearch.Text
