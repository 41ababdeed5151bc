import WorkflowSearch.Text.Alphanumeric
import WorkflowSearch.Text.Blank

namespace WorkflowSearch.EnvFile

abbrev Lookup := String → Option String

/-- Where the end of a physical line lies: only `complete` ends the logical line. -/
inductive LineState where
  | complete
  | blank
  | escape
  | single
  | singleEscape
  | double
  | doubleEscape
  deriving DecidableEq

def LineState.next (state : LineState) (c : Char) : Option LineState :=
  let opened : LineState :=
    if c = '\\' then .escape
    else if c = '"' then .double
    else if c = '\'' then .single
    else .complete
  match state with
  | .blank => if c = '#' then none else some opened
  | .complete => some (if Text.isBlank c && c ≠ '\n' && c ≠ '\r' then .blank else opened)
  | .escape => some .complete
  | .double => some (if c = '\\' then .doubleEscape else if c = '"' then .complete else .double)
  | .doubleEscape => some .double
  | .single => some (if c = '\\' then .singleEscape else if c = '\'' then .complete else .single)
  | .singleEscape => some .single

def scanLine (state : LineState) : List Char → List Char × Option LineState
  | [] => ([], some state)
  | c :: cs =>
    match state.next c with
    | none => ([], none)
    | some state =>
      let (text, final) := scanLine state cs
      (c :: text, final)

def physicalLines (text : List Char) : List (List Char) :=
  match text with
  | [] => []
  | c :: cs =>
    match physicalLines cs with
    | [] => [[c]]
    | line :: lines => if c = '\n' then [c] :: line :: lines else (c :: line) :: lines

def dropLineEnd (line : List Char) : List Char :=
  match line.reverse with
  | '\n' :: '\r' :: rest => rest.reverse
  | '\n' :: rest => rest.reverse
  | _ => line

/-- Joins physical lines to logical ones after what was read of the current one; `none` stands for a
line that does not end. -/
def logicalLines (before : List Char) (state : LineState) :
    List (List Char) → List (Option (List Char))
  | [] => if state = .complete then [] else [none]
  | line :: lines =>
    if ((before ++ line).dropWhile Text.isBlank).head? = some '#' then
      logicalLines [] .complete lines
    else
      match scanLine state line with
      | (text, none) => some (before ++ text) :: logicalLines [] .complete lines
      | (text, some .complete) =>
        some (dropLineEnd (before ++ text)) :: logicalLines [] .complete lines
      | (text, some state) => logicalLines (before ++ text) state lines

inductive ValueState where
  | text
  | escape
  | single
  /-- In the name of a reference. -/
  | name (read : List Char)
  /-- In the name of a reference in braces. -/
  | braced (read : List Char)
  /-- Behind the value, where only blanks and a comment may follow. -/
  | trailing

def resolve (lookup : Lookup) (name : List Char) : List Char :=
  match lookup (.ofList name) with
  | some value => value.toList
  | none => []

/-- Reads a value; `double` tells whether it is inside double quotes. -/
def readValue (lookup : Lookup) (double : Bool) : ValueState → List Char → Option (List Char)
  | .text, [] | .escape, [] => if double then none else some []
  | .name read, [] => if double then none else some (resolve lookup read)
  | .trailing, [] => some []
  | .single, [] | .braced _, [] => none
  | .trailing, c :: cs =>
    if c = ' ' ∨ c = '\t' then readValue lookup double .trailing cs
    else if c = '#' then some []
    else none
  | .escape, c :: cs =>
    if c = 'n' then (readValue lookup double .text cs).map ('\n' :: ·)
    else if ['\\', '\'', '"', '$', ' '].contains c then
      (readValue lookup double .text cs).map (c :: ·)
    else none
  | .single, c :: cs =>
    if c = '\'' then readValue lookup double .text cs
    else (readValue lookup double .single cs).map (c :: ·)
  | .name read, c :: cs =>
    if Text.isAlphanumeric c then readValue lookup double (.name (read ++ [c])) cs
    else if c = '\x7b' ∧ read = [] then readValue lookup double (.braced []) cs
    else if c = '$' then (readValue lookup double (.name []) cs).map (resolve lookup read ++ ·)
    else (readValue lookup double .text cs).map (resolve lookup read ++ c :: ·)
  | .braced read, c :: cs =>
    if c = '\x7d' then (readValue lookup double .text cs).map (resolve lookup read ++ ·)
    else readValue lookup double (.braced (read ++ [c])) cs
  | .text, c :: cs =>
    if c = '$' then readValue lookup double (.name []) cs
    else if c = '\\' then readValue lookup double .escape cs
    else if c = '"' then readValue lookup (!double) .text cs
    else if double then (readValue lookup double .text cs).map (c :: ·)
    else if c = '\'' then readValue lookup double .single cs
    else if c = ' ' ∨ c = '\t' then readValue lookup double .trailing cs
    else (readValue lookup double .text cs).map (c :: ·)

def isNameStart (c : Char) : Bool :=
  c.isAlpha || c = '_'

def readName? (cs : List Char) : Option (String × List Char) :=
  let isNameChar (c : Char) : Bool := c.isAlphanum || c = '_' || c = '.'
  if (cs.head?.map isNameStart).getD false then
    some (.ofList (cs.takeWhile isNameChar), (cs.dropWhile isNameChar).dropWhile Text.isBlank)
  else none

def readAssignment (lookup : Lookup) (name : String) (rest : List Char) :
    Option (String × String) :=
  match rest with
  | '=' :: value =>
    match value.dropWhile Text.isBlank with
    | [] | '#' :: _ => some (name, "")
    | value => (readValue lookup false .text value).map fun cs => (name, .ofList cs)
  | _ => none

/-- Reads a logical line: `none` if it is malformed, `some none` if it assigns nothing. The word
`export` may come before the name. -/
def readLine (lookup : Lookup) (line : List Char) : Option (Option (String × String)) :=
  match (Text.dropEndWhile Text.isBlank line).dropWhile Text.isBlank with
  | [] | '#' :: _ => some none
  | cs => do
    let (name, rest) ← readName? cs
    if name = "export" ∧ rest.head? ≠ some '=' then
      let (name, rest) ← readName? rest
      return some (← readAssignment lookup name rest)
    return some (← readAssignment lookup name rest)

def orElse (lookup : Lookup) (assigned : List (String × String)) : Lookup := fun name =>
  lookup name <|> (assigned.find? (·.1 == name)).map (·.2)

def readLines (lookup : Lookup) (assigned : List (String × String)) :
    List (Option (List Char)) → List (String × String)
  | [] => assigned
  | line :: lines =>
    match line.bind (readLine (orElse lookup assigned)) with
    | none => assigned
    | some none => readLines lookup assigned lines
    | some (some assignment) => readLines lookup (assigned ++ [assignment]) lines

/-- The variables with those of a file, which do not replace any. -/
def overlay (lookup : Lookup) (text : String) : Lookup :=
  let cs := text.toList
  let cs := if cs.head? = some '\ufeff' then cs.drop 1 else cs
  orElse lookup (readLines lookup [] (logicalLines [] .complete (physicalLines cs)))

end WorkflowSearch.EnvFile
