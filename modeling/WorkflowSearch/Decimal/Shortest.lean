import WorkflowSearch.Decimal.Binary64

namespace WorkflowSearch.Decimal

structure Digits where
  digits : Nat
  exponent : Int
  deriving DecidableEq

/-- The positive double `significand · 2 ^ exponent` on the grid of multiples of `10 ^ k`:
in units of `1 / denominator` of a grid step, a quarter of the last place is `quarter`. -/
structure OnGrid where
  quarter : Nat
  denominator : Nat

def onGrid (exponent k : Int) : OnGrid where
  quarter := Nat.pow 2 (exponent - 2).toNat * Nat.pow 10 (-k).toNat
  denominator := Nat.pow 2 (2 - exponent).toNat * Nat.pow 10 k.toNat

/-- Whether the grid point `c` rounds to the double. A power of two has the smaller half-gap below
itself, and the ends belong to the interval of an even significand. -/
def readsBack (significand : Nat) (exponent : Int) (g : OnGrid) (c : Nat) : Bool :=
  let belowGap := if significand = Binary64.fractions ∧ exponent ≠ -1074 then 1 else 2
  let lower := (4 * significand - belowGap) * g.quarter
  let upper := (4 * significand + 2) * g.quarter
  let point := c * g.denominator
  if significand % 2 = 0 then lower ≤ point && point ≤ upper
  else lower < point && point < upper

/-- The nearest grid point that reads back, if one of the two neighbours of the value does. Of two
at the same distance the upper one is taken. -/
def nearestOn? (significand : Nat) (exponent k : Int) : Option Nat :=
  let g := onGrid exponent k
  let value := 4 * significand * g.quarter
  let below := value / g.denominator
  let above := below + 1
  match readsBack significand exponent g below, readsBack significand exponent g above with
  | true, true =>
    if value - below * g.denominator < above * g.denominator - value then some below
    else some above
  | true, false => some below
  | false, true => some above
  | false, false => none

def refine (significand : Nat) (exponent : Int) : Nat → Int → Digits
  | 0, k =>
    let g := onGrid exponent k
    ⟨4 * significand * g.quarter / g.denominator, k⟩
  | steps + 1, k =>
    match nearestOn? significand exponent k with
    | some digits => ⟨digits, k⟩
    | none => refine significand exponent steps (k - 1)

/-- Seventeen digits always suffice; the search begins two grids above the leading digit. -/
def shortest (significand : Nat) (exponent : Int) : Digits :=
  if significand = 0 then ⟨0, 0⟩
  else
    let leading := ((significand.log2 : Int) + exponent) * 30103 / 100000
    refine significand exponent 20 (leading + 2)

end WorkflowSearch.Decimal
