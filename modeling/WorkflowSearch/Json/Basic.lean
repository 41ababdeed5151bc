import WorkflowSearch.Scalar.Double

namespace WorkflowSearch

inductive Json where
  | null
  | bool (value : Bool)
  | int (value : Int)
  | float (value : Double)
  | str (value : String)
  | arr (items : List Json)
  | obj (members : List (String × Json))
  deriving Inhabited

namespace Json

def nat (n : Nat) : Json :=
  .int n

def strs (items : List String) : Json :=
  .arr (items.map .str)

def option {α : Type} (encode : α → Json) : Option α → Json
  | none => .null
  | some a => encode a

/-- The member that the last occurrence of a key has. -/
def get? (key : String) : Json → Option Json
  | .obj members => (members.reverse.find? (·.1 == key)).map (·.2)
  | _ => none

def without (keys : List String) : Json → Json
  | .obj members => .obj (members.filter fun m => !keys.contains m.1)
  | j => j

def mapMembers (keys : List String) (f : Json → Json) : Json → Json
  | .obj members => .obj (members.map fun m => (m.1, if keys.contains m.1 then f m.2 else m.2))
  | j => j

def mapItems (f : Json → Json) : Json → Json
  | .arr items => .arr (items.map f)
  | j => j

/-- Puts a member in key order, in the place of an earlier one of the same key. -/
def insertMember (key : String) (value : Json) :
    List (String × Json) → List (String × Json)
  | [] => [(key, value)]
  | (k, v) :: rest =>
    match compare key k with
    | .lt => (key, value) :: (k, v) :: rest
    | .eq => (key, value) :: rest
    | .gt => (k, v) :: insertMember key value rest

def sortMembers (members : List (String × Json)) : List (String × Json) :=
  members.foldl (fun sorted m => insertMember m.1 m.2 sorted) []

mutual

/-- Members in key order at every level, of repeated keys the last one. -/
def canonical : Json → Json
  | .arr items => .arr (canonicalItems items)
  | .obj members => .obj (sortMembers (canonicalMembers members))
  | .null => .null
  | .bool b => .bool b
  | .int n => .int n
  | .float x => .float x
  | .str s => .str s

def canonicalItems : List Json → List Json
  | [] => []
  | j :: js => canonical j :: canonicalItems js

def canonicalMembers : List (String × Json) → List (String × Json)
  | [] => []
  | (k, j) :: rest => (k, canonical j) :: canonicalMembers rest

end

end Json

end WorkflowSearch
