namespace WorkflowSearch

class RandomSource (σ : Type) where
  below (n : Nat) (pos : 0 < n) (source : σ) : Fin n × σ
  /-- A coin that shows `true` for `threshold` of `2 ^ 64` equally likely values. -/
  coin (threshold : Nat) (source : σ) : Bool × σ

namespace RandomSource

variable {σ β : Type} [RandomSource σ]

def choose? (items : List β) (source : σ) : Option β × σ :=
  if h : 0 < items.length then
    let (i, source) := below items.length h source
    (some items[i], source)
  else (none, source)

/-- Exchanges the items at `i, i - 1, …, 1` with one at or before them. -/
def shuffleFrom : Nat → Array β → σ → Array β × σ
  | 0, items, source => (items, source)
  | i + 1, items, source =>
    let (j, source) := below (i + 2) (Nat.succ_pos _) source
    shuffleFrom i (items.swapIfInBounds (i + 1) j) source

def shuffle (items : List β) (source : σ) : List β × σ :=
  let (shuffled, source) := shuffleFrom (items.length - 1) items.toArray source
  (shuffled.toList, source)

end RandomSource

end WorkflowSearch
