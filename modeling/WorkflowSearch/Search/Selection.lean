import WorkflowSearch.Config.Basic
import WorkflowSearch.Search.Tree

namespace WorkflowSearch

variable {α : Type} [Scalar α]

/-- The distinct structural mutations as a share of the lineage, and a half for a topology other
than that of the root. -/
def novelty (tree : Tree α) (node : Node α) (weight : α) : α :=
  let lineage := node.blueprint.parts.lineage
  let distinct := ((lineage.filter (·.isStructural)).map Mutation.text).eraseDups
  let shifted := tree.root?.any (·.blueprint.parts.topology ≠ node.blueprint.parts.topology)
  weight * (share distinct.length lineage.length + if shifted then 0.5 else 0)

/-- The mean value, an allowance for few visits next to those of the parent, and the novelty. -/
def confidenceBound (tree : Tree α) (node : Node α) (config : SearchConfig α) : α :=
  let parentVisits :=
    match node.parent.bind tree.get? with
    | some parent => parent.visits
    | none => node.visits
  let visits : α := (max node.visits 1 : Nat)
  let exploration :=
    config.explorationWeight * Scalar.sqrt (Scalar.ln ((max parentVisits 1 : Nat) : α) / visits)
  node.meanValue + exploration + novelty tree node config.noveltyWeight

/-- The node of the greatest bound among those with room for a child, the first of equals. -/
def Tree.select? (tree : Tree α) (config : SearchConfig α) : Option Nat :=
  let expandable := tree.nodes.filter (·.children.length < config.maxChildren)
  match expandable.map fun node => (node.id, confidenceBound tree node config) with
  | [] => none
  | first :: rest =>
    some (rest.foldl (fun best entry => if best.2 < entry.2 then entry else best) first).1

end WorkflowSearch
