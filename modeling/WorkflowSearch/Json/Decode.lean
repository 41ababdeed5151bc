import WorkflowSearch.Json.Basic

namespace WorkflowSearch.Json

def asStr? : Json → Option String
  | .str s => some s
  | _ => none

def asBool? : Json → Option Bool
  | .bool b => some b
  | _ => none

def asWord? (bits : Nat) : Json → Option Nat
  | .int (.ofNat n) => if n < Nat.pow 2 bits then some n else none
  | _ => none

def asDouble? : Json → Option Double
  | .int n => some (Double.ofDecimal (n < 0) n.natAbs 0)
  | .float x => some x
  | _ => none

def asList? {β : Type} (decode : Json → Option β) : Json → Option (List β)
  | .arr items => items.mapM decode
  | _ => none

def asOption? {β : Type} (decode : Json → Option β) : Json → Option (Option β)
  | .null => some none
  | j => (decode j).map some

/-- A name of a fixed vocabulary; it may also be the only key of an object, with nothing under it.
-/
def asName? {β : Type} (all : List β) (name : β → String) : Json → Option β
  | .str s => all.find? (name · == s)
  | .obj [(s, .null)] => all.find? (name · == s)
  | _ => none

def asMap? {κ β : Type} (key : Json → Option κ) (decode : Json → Option β) :
    Json → Option (List (κ × β))
  | .obj members => members.mapM fun (k, j) => do return (← key (.str k), ← decode j)
  | _ => none

/-- The fields of a record that are still to be read. -/
inductive Fields where
  | named (members : List (String × Json))
  | listed (items : List Json)

abbrev RecordReader := StateT Fields Option

namespace RecordReader

variable {β : Type}

/-- The field of a name, or the next one of a list; a name that occurs twice is refused. -/
def next (name : String) : RecordReader (Option Json) := fun fields =>
  match fields with
  | .named members =>
    match members.filter (·.1 == name) with
    | [] => some (none, fields)
    | [(_, j)] => some (some j, fields)
    | _ => none
  | .listed [] => some (none, fields)
  | .listed (j :: js) => some (some j, .listed js)

def required (name : String) (decode : Json → Option β) : RecordReader β := do
  match ← next name with
  | some j => decode j
  | none => none

def defaulted (name : String) (default : β) (decode : Json → Option β) : RecordReader β := do
  match ← next name with
  | some j => decode j
  | none => return default

/-- A field that may be absent from an object, but not from an array. -/
def optional (name : String) (decode : Json → Option β) : RecordReader (Option β) := do
  let absentAllowed := match ← get with
    | .named _ => true
    | .listed _ => false
  match ← next name with
  | some j => asOption? decode j
  | none => if absentAllowed then return none else none

end RecordReader

def asRecord? {β : Type} (reader : RecordReader β) : Json → Option β
  | .obj members => (reader (.named members)).map (·.1)
  | .arr items =>
    match reader (.listed items) with
    | some (b, .listed []) => some b
    | _ => none
  | _ => none

end WorkflowSearch.Json
