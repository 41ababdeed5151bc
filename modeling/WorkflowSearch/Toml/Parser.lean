import WorkflowSearch.Toml.Scalar
import WorkflowSearch.Toml.Table

namespace WorkflowSearch.Toml

abbrev Reader := StateT (List Char) Option

namespace Reader

def peek : Reader (Option Char) := do
  return (← get).head?

def expect (text : String) : Reader Unit := do
  let cs ← get
  if text.toList.isPrefixOf cs then set (cs.drop text.length) else failure

def accept (text : String) : Reader Bool := do
  let cs ← get
  if text.toList.isPrefixOf cs then
    set (cs.drop text.length)
    return true
  else return false

def takeWhile (p : Char → Bool) : Reader (List Char) := do
  let cs ← get
  set (cs.dropWhile p)
  return cs.takeWhile p

def skipSpaces : Reader Unit := do
  let _ ← takeWhile fun c => c = ' ' || c = '\t'

def isPlain (c : Char) : Bool :=
  c = '\t' || (0x20 ≤ c.toNat && c.toNat ≠ 0x7F)

def skipComment : Reader Unit := do
  if ← accept "#" then
    let _ ← takeWhile isPlain

def acceptNewline : Reader Bool := do
  if ← accept "\n" then return true
  accept "\r\n"

def endLine : Reader Unit := do
  skipSpaces
  skipComment
  unless ← acceptNewline do
    unless (← get).isEmpty do failure

def skipLines : Nat → Reader Unit
  | 0 => return
  | steps + 1 => do
    skipSpaces
    skipComment
    if ← acceptNewline then skipLines steps

def hexDigit? (c : Char) : Option Nat :=
  (digits? 16 [c]).map (number 16)

def unicodeEscape (count : Nat) : Reader Char := do
  let cs ← get
  let code ← (cs.take count).foldlM (fun n c => (hexDigit? c).map (n * 16 + ·)) 0
  set (cs.drop count)
  if cs.length < count || 0x110000 ≤ code || (0xD800 ≤ code && code < 0xE000) then failure
  return Char.ofNat code

def escape (c : Char) : Reader Char :=
  match c with
  | 'b' => return '\x08'
  | 't' => return '\t'
  | 'n' => return '\n'
  | 'f' => return '\x0c'
  | 'r' => return '\r'
  | '"' => return '"'
  | '\\' => return '\\'
  | 'u' => unicodeEscape 4
  | 'U' => unicodeEscape 8
  | _ => failure

def next : Reader Char := do
  match ← get with
  | c :: rest =>
    set rest
    return c
  | [] => failure

def basicString (acc : List Char) : Nat → Reader String
  | 0 => failure
  | steps + 1 => do
    match ← next with
    | '"' => return .ofList acc.reverse
    | '\\' => basicString ((← escape (← next)) :: acc) steps
    | c => if isPlain c then basicString (c :: acc) steps else failure

def literalString : Reader String := do
  let cs ← takeWhile fun c => isPlain c && c ≠ '\''
  expect "'"
  return .ofList cs

/-- The closing quotes of a string over several lines; up to two more quotes before them belong to
the string. -/
def closing? (quote : Char) (cs : List Char) : Option (List Char × List Char) :=
  let quotes := (cs.takeWhile (· = quote)).length
  if quotes < 3 then none
  else
    let inner := min (quotes - 3) 2
    some (List.replicate inner quote, cs.drop (inner + 3))

def skipContinuation : Nat → Bool → Reader Unit
  | 0, _ => failure
  | steps + 1, broken => do
    skipSpaces
    if ← acceptNewline then skipContinuation steps true
    else unless broken do failure

def longString (quote : Char) (acc : List Char) : Nat → Reader String
  | 0 => failure
  | steps + 1 => do
    match closing? quote (← get) with
    | some (inner, rest) =>
      set rest
      return .ofList (acc.reverse ++ inner)
    | none =>
      if ← acceptNewline then longString quote ('\n' :: acc) steps
      else
        let c ← next
        if c = '\\' ∧ quote = '"' then
          match ← peek with
          | some ' ' | some '\t' | some '\n' | some '\r' =>
            skipContinuation (steps + 1) false
            longString quote acc steps
          | _ => longString quote ((← escape (← next)) :: acc) steps
        else if isPlain c then longString quote (c :: acc) steps
        else failure

def isBareKeyChar (c : Char) : Bool :=
  c.isAlphanum || c = '_' || c = '-'

def simpleKey : Reader String := do
  if ← accept "\"" then basicString [] (← get).length
  else if ← accept "'" then literalString
  else
    let cs ← takeWhile isBareKeyChar
    if cs.isEmpty then failure
    return .ofList cs

def dottedKey : Nat → Reader (List String)
  | 0 => failure
  | steps + 1 => do
    skipSpaces
    let key ← simpleKey
    skipSpaces
    if ← accept "." then return key :: (← dottedKey steps)
    return [key]

def isWordChar (c : Char) : Bool :=
  c.isAlphanum || c = '+' || c = '-' || c = '_' || c = '.' || c = ':'

def word : Reader (List Char) := do
  let cs ← takeWhile isWordChar
  match ← get with
  | ' ' :: h :: rest =>
    if isDate cs && h.isDigit then
      set (h :: rest)
      return cs ++ ' ' :: (← takeWhile isWordChar)
    return cs
  | _ => return cs

def quotedString? : Reader (Option String) := do
  let steps := (← get).length + 1
  if ← accept "\"\"\"" then
    let _ ← acceptNewline
    return some (← longString '"' [] steps)
  if ← accept "'''" then
    let _ ← acceptNewline
    return some (← longString '\'' [] steps)
  if ← accept "\"" then return some (← basicString [] steps)
  if ← accept "'" then return some (← literalString)
  return none

mutual

/-- A value; every step of nesting or of a list takes one step of the count. -/
def value : Nat → Reader Json
  | 0 => failure
  | steps + 1 => do
    match ← quotedString? with
    | some s => return .str s
    | none =>
      if ← accept "[" then items [] steps
      else if ← accept "\x7b" then
        skipSpaces
        if ← accept "\x7d" then return .obj []
        inlineMembers [] steps
      else
        match scalar? (← word) with
        | some j => return j
        | none => failure

def items (acc : List Json) : Nat → Reader Json
  | 0 => failure
  | steps + 1 => do
    skipLines (← get).length
    if ← accept "]" then return .arr acc.reverse
    let item ← value steps
    skipLines (← get).length
    if ← accept "," then items (item :: acc) steps
    else
      expect "]"
      return .arr (item :: acc).reverse

def inlineMembers (members : Members) : Nat → Reader Json
  | 0 => failure
  | steps + 1 => do
    let key ← dottedKey (steps + 1)
    expect "="
    skipSpaces
    let j ← value steps
    skipSpaces
    match members.assign j (key.getLastD "") key.dropLast true with
    | none => failure
    | some members =>
      if ← accept "," then inlineMembers members steps
      else
        expect "\x7d"
        return .obj (membersToJson members)

end

structure Document where
  members : Members
  header : List String

def lift (members? : Option Members) : Reader Members :=
  match members? with
  | some members => return members
  | none => failure

/-- One statement: a header or a key with its value. -/
def statement (document : Document) : Reader Document := do
  let steps := (← get).length
  if ← accept "[[" then
    let path ← dottedKey steps
    expect "]]"
    let members ← lift
      (document.members.inside (Members.openNext (path.getLastD "")) path.dropLast)
    return ⟨members, path⟩
  else if ← accept "[" then
    let path ← dottedKey steps
    expect "]"
    let members ← lift
      (document.members.inside (Members.openTable (path.getLastD "")) path.dropLast)
    return ⟨members, path⟩
  else
    let key ← dottedKey steps
    expect "="
    skipSpaces
    let j ← value steps
    let members ← lift (document.members.inside
      (Members.assign j (key.getLastD "") key.dropLast true) document.header)
    return { document with members }

def statements : Nat → Document → Reader Document
  | 0, document => return document
  | steps + 1, document => do
    skipSpaces
    match ← peek with
    | none => return document
    | some '#' | some '\n' | some '\r' =>
      endLine
      statements steps document
    | some _ =>
      let document ← statement document
      endLine
      statements steps document

end Reader

def parse? (text : String) : Option Json :=
  let cs := text.toList
  let cs := if cs.head? = some '\ufeff' then cs.drop 1 else cs
  match (Reader.statements (cs.length + 1) ⟨[], []⟩).run cs with
  | some (document, []) => some (.obj (membersToJson document.members))
  | _ => none

end WorkflowSearch.Toml
