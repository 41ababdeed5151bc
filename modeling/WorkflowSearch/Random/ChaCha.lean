import WorkflowSearch.Random.Source

namespace WorkflowSearch

/-- The key, the number of the next block, and the words of the current block that are left. -/
structure ChaCha where
  key : Array UInt32
  counter : Nat
  pending : List UInt32

namespace ChaCha

def rotateLeft (x n : UInt32) : UInt32 :=
  (x <<< n) ||| (x >>> (32 - n))

def quarterRound (s : Array UInt32) (a b c d : Nat) : Array UInt32 :=
  let w (i : Nat) : UInt32 := s.getD i 0
  let x := w a + w b
  let v := rotateLeft (w d ^^^ x) 16
  let y := w c + v
  let u := rotateLeft (w b ^^^ y) 12
  let x := x + u
  let v := rotateLeft (v ^^^ x) 8
  let y := y + v
  let u := rotateLeft (u ^^^ y) 7
  (((s.setIfInBounds a x).setIfInBounds b u).setIfInBounds c y).setIfInBounds d v

def doubleRound (s : Array UInt32) : Array UInt32 :=
  [(0, 4, 8, 12), (1, 5, 9, 13), (2, 6, 10, 14), (3, 7, 11, 15),
    (0, 5, 10, 15), (1, 6, 11, 12), (2, 7, 8, 13), (3, 4, 9, 14)].foldl
    (fun s (a, b, c, d) => quarterRound s a b c d) s

def block (key : Array UInt32) (counter : Nat) : List UInt32 :=
  let start := #[0x61707865, 0x3320646e, 0x79622d32, 0x6b206574] ++ key ++
    #[UInt32.ofNat counter, UInt32.ofNat (counter / UInt32.size), 0, 0]
  let mixed := (List.range 6).foldl (fun s _ => doubleRound s) start
  (mixed.toList.zip start.toList).map fun (a, b) => a + b

def nextWord (g : ChaCha) : UInt32 × ChaCha :=
  match g.pending with
  | w :: rest => (w, { g with pending := rest })
  | [] =>
    match block g.key g.counter with
    | w :: rest => (w, { g with counter := g.counter + 1, pending := rest })
    | [] => (0, g)

def keyWords : Nat → Nat → List UInt32
  | 0, _ => []
  | words + 1, seed =>
    let seed := (seed * 6364136223846793005 + 11634580027462260723) % UInt64.size
    let low := (((seed >>> 18) ^^^ seed) >>> 27) % UInt32.size
    let turn := seed >>> 59
    let rotated := (low >>> turn) ||| (low <<< ((32 - turn) % 32))
    UInt32.ofNat rotated :: keyWords words seed

def ofSeed (seed : Nat) : ChaCha where
  key := (keyWords 8 seed).toArray
  counter := 0
  pending := []

/-- The greatest multiple of `n` by a power of two that 32 bits hold, less one. -/
def zone (n : Nat) : Nat :=
  n <<< (31 - n.log2) - 1

/-- The upper half of a random word times `n` is below `n`. A word whose lower half lies above the
zone is drawn again, which keeps the choice uniform; half of all words at least are accepted. -/
def belowWith (n : Nat) (pos : 0 < n) : Nat → ChaCha → Fin n × ChaCha
  | redraws, g =>
    let (w, g) := g.nextWord
    let m := w.toNat * n
    let i : Fin n := ⟨m / UInt32.size, by
      rw [Nat.div_lt_iff_lt_mul (by decide), Nat.mul_comm n]
      exact Nat.mul_lt_mul_of_pos_right w.toNat_lt pos⟩
    if m % UInt32.size ≤ zone n then (i, g)
    else
      match redraws with
      | 0 => (i, g)
      | redraws + 1 => belowWith n pos redraws g

instance : RandomSource ChaCha where
  below n pos g := belowWith n pos 1000 g
  coin threshold g :=
    let (low, g) := g.nextWord
    let (high, g) := g.nextWord
    (decide (low.toNat + high.toNat * UInt32.size < threshold), g)

end ChaCha

end WorkflowSearch
