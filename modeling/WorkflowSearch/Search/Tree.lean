import WorkflowSearch.Evaluation.Summary

namespace WorkflowSearch

variable {α : Type}

structure Node (α : Type) where
  id : Nat
  blueprint : Blueprint
  parent : Option Nat
  children : List Nat
  mutation : Option Mutation
  /-- A counter of 32 bits, which is exact below `2 ^ 32` visits. -/
  visits : Nat
  valueSum : α
  train : Summary α
  validation : Summary α

def Node.meanValue [Scalar α] (node : Node α) : α :=
  if node.visits = 0 then 0 else node.valueSum / (node.visits : α)

structure Tree (α : Type) where
  nodes : List (Node α)

namespace Tree

def empty : Tree α :=
  ⟨[]⟩

def size (tree : Tree α) : Nat :=
  tree.nodes.length

def get? (tree : Tree α) (id : Nat) : Option (Node α) :=
  tree.nodes[id]?

def root? (tree : Tree α) : Option (Node α) :=
  tree.nodes.head?

variable [Scalar α]

def ofRoot (blueprint : Blueprint) (train validation : Summary α) : Tree α :=
  ⟨[{ id := 0, blueprint, parent := none, children := [], mutation := none, visits := 0,
      valueSum := 0, train, validation }]⟩

/-- Adds a child to a node that exists; the second component is its id. -/
def addChild? (tree : Tree α) (parent : Nat) (blueprint : Blueprint) (mutation : Mutation)
    (train validation : Summary α) : Option (Tree α × Nat) :=
  if parent < tree.size then
    let id := tree.size
    let nodes := tree.nodes.modify parent fun node =>
      { node with children := node.children ++ [id] }
    let child : Node α :=
      { id, blueprint, parent := some parent, children := [], mutation := some mutation,
        visits := 0, valueSum := 0, train, validation }
    some (⟨nodes ++ [child]⟩, id)
  else none

omit [Scalar α] in
/-- The ids from a node up to the root. -/
def pathToRoot (tree : Tree α) (id : Nat) : List Nat :=
  match tree.get? id with
  | none => []
  | some node =>
    match node.parent with
    | none => [id]
    | some parent => if parent < id then id :: tree.pathToRoot parent else [id]
termination_by id

/-- Counts a visit with a reward at a node and all its ancestors. -/
def backpropagate (tree : Tree α) (id : Nat) (reward : α) : Tree α :=
  ⟨(tree.pathToRoot id).foldl (fun nodes i => nodes.modify i fun node =>
    { node with visits := node.visits + 1, valueSum := node.valueSum + reward }) tree.nodes⟩

end Tree

end WorkflowSearch
