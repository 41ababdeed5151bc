import WorkflowSearch.Json.Basic

namespace WorkflowSearch.Toml

inductive TableOrigin where
  /-- Named only as a part of a longer header. -/
  | implied
  /-- Opened by a header of its own. -/
  | header
  /-- Made by a dotted key. -/
  | dotted
  deriving DecidableEq

inductive Node where
  | value (value : Json)
  | table (origin : TableOrigin) (members : List (String × Node))
  | tables (items : List (List (String × Node)))
  deriving Inhabited

abbrev Members := List (String × Node)

namespace Members

def find? (key : String) (members : Members) : Option Node :=
  (List.find? (·.1 == key) members).map (·.2)

def set (key : String) (node : Node) : Members → Members
  | [] => [(key, node)]
  | (k, n) :: rest => if k == key then (key, node) :: rest else (k, n) :: set key node rest

/-- Changes the table at the end of a path of headers; of tables that share a header, the last. -/
def inside (change : Members → Option Members) : List String → Members → Option Members
  | [], members => change members
  | key :: path, members =>
    match members.find? key with
    | none => do return members.set key (.table .implied (← inside change path []))
    | some (.table origin inner) => do
      return members.set key (.table origin (← inside change path inner))
    | some (.tables items) => do
      let last ← inside change path (items.getLastD [])
      return members.set key (.tables (items.dropLast ++ [last]))
    | some (.value _) => none

/-- Opens a table by its header; it may have been implied before. -/
def openTable (key : String) (members : Members) : Option Members :=
  match members.find? key with
  | none => some (members.set key (.table .header []))
  | some (.table .implied inner) => some (members.set key (.table .header inner))
  | _ => none

def openNext (key : String) (members : Members) : Option Members :=
  match members.find? key with
  | none => some (members.set key (.tables [[]]))
  | some (.tables items) => some (members.set key (.tables (items ++ [[]])))
  | _ => none

/-- Adds a value under a dotted key. The table that gets it was made by dotted keys itself, unless
the key has one part only; tables with a header of their own are closed to dotted keys. -/
def assign (value : Json) (key : String) : (path : List String) → (atEnd : Bool) →
    Members → Option Members
  | [], allowed, members =>
    if allowed && (members.find? key).isNone then some (members.set key (.value value)) else none
  | k :: path, _, members =>
    match members.find? k with
    | none => do return members.set k (.table .dotted (← assign value key path true []))
    | some (.table .header _) => none
    | some (.table origin inner) => do
      return members.set k (.table origin (← assign value key path (origin = .dotted) inner))
    | some (.tables items) => do
      let last ← assign value key path false (items.getLastD [])
      return members.set k (.tables (items.dropLast ++ [last]))
    | some (.value _) => none

end Members

mutual

def Node.toJson : Node → Json
  | .value j => j
  | .table _ members => .obj (membersToJson members)
  | .tables items => .arr (tablesToJson items)

def membersToJson : List (String × Node) → List (String × Json)
  | [] => []
  | (k, n) :: rest => (k, n.toJson) :: membersToJson rest

def tablesToJson : List (List (String × Node)) → List Json
  | [] => []
  | members :: rest => .obj (membersToJson members) :: tablesToJson rest

end

end WorkflowSearch.Toml
