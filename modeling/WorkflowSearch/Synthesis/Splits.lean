import WorkflowSearch.Config.Basic
import WorkflowSearch.Synthesis.Draft

namespace WorkflowSearch

variable {α : Type} [Scalar α]

/-- Marks the first draft of every intent until `room` drafts are marked. The second component is
the room that is left. -/
def markCovering (room : Nat) (covered : List Intent) : List Draft → List (Draft × Bool) × Nat
  | [] => ([], room)
  | draft :: rest =>
    if 0 < room ∧ draft.intent ∉ covered then
      let (marked, left) := markCovering (room - 1) (draft.intent :: covered) rest
      ((draft, true) :: marked, left)
    else
      let (marked, left) := markCovering room covered rest
      ((draft, false) :: marked, left)

/-- The marked drafts and the earliest others that there is room for. -/
def keepMarked (room : Nat) : List (Draft × Bool) → List Draft
  | [] => []
  | (draft, true) :: rest => draft :: keepMarked room rest
  | (draft, false) :: rest =>
    match room with
    | 0 => keepMarked 0 rest
    | room + 1 => draft :: keepMarked room rest

/-- At most `limit` drafts in their order: the first of each intent, then the earliest. -/
def clipPreservingCoverage (drafts : List Draft) (limit : Nat) : List Draft :=
  if drafts.length ≤ limit then drafts
  else
    let (marked, room) := markCovering limit [] drafts
    keepMarked room marked

/-- The split that can lend a case to another: the largest above the minimum, the first of equals.
-/
def donor? (sizes : PerSplit Nat) (minimum : Nat) (split : Split) : Option Split :=
  let able := Split.all.filter fun s => s != split && decide (minimum < sizes.get s)
  able.foldl (fun best s =>
    match best with
    | none => some s
    | some b => if sizes.get b < sizes.get s then some s else some b) none

/-- Moves cases to a split until it has the minimum; `none` if no other split can lend one. -/
def fillSplit (minimum : Nat) (split : Split) : (missing : Nat) → PerSplit Nat →
    Option (PerSplit Nat)
  | 0, sizes => some sizes
  | missing + 1, sizes =>
    match donor? sizes minimum split with
    | none => none
    | some donor =>
      fillSplit minimum split missing ((sizes.modify (· - 1) donor).modify (· + 1) split)

inductive SynthesisError where
  | insufficientCoverage (intent : Intent)
  | splitUnsatisfiable (size minPerSplit : Nat)
  | insufficientCases (requested available : Nat)
  | emptySchema
  deriving DecidableEq

def SynthesisError.kind : SynthesisError → String
  | .insufficientCoverage _ => "InsufficientCoverage"
  | .splitUnsatisfiable .. => "SplitUnsatisfiable"
  | .insufficientCases .. => "InsufficientCases"
  | .emptySchema => "EmptySchema"

def SynthesisError.message : SynthesisError → String
  | .insufficientCoverage intent => "intent " ++ intent.name ++ " yields no renderable case"
  | .splitUnsatisfiable size minPerSplit =>
    toString size ++ " cases cannot satisfy a minimum of " ++ toString minPerSplit ++ " per split"
  | .insufficientCases requested available =>
    "schema yields " ++ toString available ++ " unique cases, " ++ toString requested ++
      " requested"
  | .emptySchema => "schema snapshot has no entities or relations to bind"

/-- How synthesis ends without a dataset: it fails with an error, or it panics. -/
inductive SynthesisStop where
  | failed (error : SynthesisError)
  | panicked
  deriving DecidableEq

def checkedSub (a b : Nat) : Option Nat :=
  if b ≤ a then some (a - b) else none

/-- The share of train, rounded down; nothing bounds it by the number of cases. -/
def trainShare (size : Nat) (ratios : SplitRatios α) : Nat :=
  Scalar.floorNat ((size : α) * ratios.train)

def floorSizes (size : Nat) (ratios : SplitRatios α) : Option (PerSplit Nat) := do
  let train := trainShare size ratios
  let rest ← checkedSub size train
  let validation := min (Scalar.floorNat ((size : α) * ratios.val)) rest
  let test ← checkedSub rest validation
  return ⟨train, validation, test⟩

/-- The sizes by ratio, where a split below the minimum takes cases from the largest one. A size
below zero is a panic. -/
def splitSizes (size : Nat) (config : DatasetConfig α) : Except SynthesisStop (PerSplit Nat) :=
  let minimum := config.minPerSplit
  if size < minimum * 3 ∨ size = 0 then .error (.failed (.splitUnsatisfiable size minimum))
  else
    let fill (sizes : PerSplit Nat) (split : Split) : Option (PerSplit Nat) :=
      fillSplit minimum split (minimum - sizes.get split) sizes
    match floorSizes size config.splitRatios with
    | none => .error .panicked
    | some sizes =>
      match Split.all.foldlM fill sizes with
      | some sizes => .ok sizes
      | none => .error (.failed (.splitUnsatisfiable size minimum))

end WorkflowSearch
