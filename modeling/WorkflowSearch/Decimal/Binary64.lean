namespace WorkflowSearch.Decimal

/-- A double, where a finite one has the value `± significand · 2 ^ exponent`. -/
inductive Binary64 where
  | nan
  | infinite (negative : Bool)
  | finite (negative : Bool) (significand : Nat) (exponent : Int)
  deriving DecidableEq

namespace Binary64

def fractions : Nat :=
  Nat.pow 2 52

def signBit : Nat :=
  Nat.pow 2 63

def ofBits (bits : Nat) : Binary64 :=
  let negative := decide (signBit ≤ bits)
  let biased := bits / fractions % 2048
  let fraction := bits % fractions
  if biased = 2047 then
    if fraction = 0 then .infinite negative else .nan
  else if biased = 0 then .finite negative fraction (-1074)
  else .finite negative (fractions + fraction) ((biased : Int) - 1075)

def ofFloat (x : Float) : Binary64 :=
  ofBits x.toBits.toNat

end Binary64

end WorkflowSearch.Decimal
