namespace WorkflowSearch.Text

variable {β : Type}

/-- The entry of a sorted table at which the code sought lies, by halving the window `[lo, hi)`.
An entry answers `lt` when the code lies before it and `gt` when it lies after it. -/
def bisect (side : β → Ordering) (entries : Array β) (lo hi : Nat) : Option β :=
  if _h : lo < hi then
    match entries[(lo + hi) / 2]? with
    | none => none
    | some entry =>
      match side entry with
      | .lt => bisect side entries lo ((lo + hi) / 2)
      | .eq => some entry
      | .gt => bisect side entries ((lo + hi) / 2 + 1) hi
  else none
termination_by hi - lo

def rangeSide (code first last : Nat) : Ordering :=
  if code < first then .lt else if last < code then .gt else .eq

abbrev CodeRanges := Array (Nat × Nat)

def CodeRanges.contains (ranges : CodeRanges) (c : Char) : Bool :=
  (bisect (fun r => rangeSide c.toNat r.1 r.2) ranges 0 ranges.size).isSome

end WorkflowSearch.Text
