import WorkflowSearch.Scalar.Basic

namespace WorkflowSearch

/-- How often each value occurs, without those that do not occur. -/
def tally {β : Type} [BEq β] (all values : List β) : List (β × Nat) :=
  (all.map fun b => (b, values.count b)).filter fun (_, n) => n != 0

/-- The value of the greatest count, the first of equals. -/
def mostFrequent? {β : Type} : List (β × Nat) → Option β
  | [] => none
  | first :: rest =>
    some (rest.foldl (fun best entry => if best.2 < entry.2 then entry else best) first).1

def share {α : Type} [Scalar α] (part whole : Nat) : α :=
  if whole = 0 then 0 else (part : α) / (whole : α)

end WorkflowSearch
