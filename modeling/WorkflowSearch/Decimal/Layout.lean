import WorkflowSearch.Decimal.Shortest

namespace WorkflowSearch.Decimal

/-- The decisions of one number format. A number `d.ddd · 10 ^ e` is positional when `e` passes
`positional`, and `integralSuffix` follows a positional number without a fraction. -/
structure Layout where
  positional : Int → Bool
  integralSuffix : String

/-- Documents and answers write exponents from `-5` to `15` out, and mark integral numbers. -/
def Layout.document : Layout where
  positional e := -5 ≤ e && e < 16
  integralSuffix := ".0"

def Layout.message : Layout where
  positional _ := true
  integralSuffix := ""

def zeros (n : Nat) : String :=
  .ofList (List.replicate n '0')

namespace Layout

def positionalText (layout : Layout) (d : Digits) : String :=
  let ds := (toString d.digits).toList
  if 0 ≤ d.exponent then .ofList ds ++ zeros d.exponent.toNat ++ layout.integralSuffix
  else
    let places := (-d.exponent).toNat
    if places < ds.length then
      .ofList (ds.take (ds.length - places)) ++ "." ++ .ofList (ds.drop (ds.length - places))
    else "0." ++ zeros (places - ds.length) ++ .ofList ds

def scientificText (d : Digits) (leading : Int) : String :=
  let ds := (toString d.digits).toList
  let fraction := if ds.length ≤ 1 then "" else "." ++ .ofList (ds.drop 1)
  .ofList (ds.take 1) ++ fraction ++ (if leading < 0 then "e-" else "e+") ++
    toString leading.natAbs

def digitsText (layout : Layout) (d : Digits) : String :=
  let leading := d.exponent + ((toString d.digits).length : Int) - 1
  if layout.positional leading then layout.positionalText d else scientificText d leading

def text (layout : Layout) : Binary64 → String
  | .nan => "NaN"
  | .infinite negative => if negative then "-inf" else "inf"
  | .finite negative significand exponent =>
    (if negative then "-" else "") ++ layout.digitsText (shortest significand exponent)

end Layout

def roundedQuotient (num den : Nat) : Nat :=
  let q := num / den
  let rest := 2 * (num % den)
  if rest < den ∨ rest = den ∧ q % 2 = 0 then q else q + 1

def fixedText (places : Nat) : Binary64 → String
  | .nan => "NaN"
  | .infinite negative => if negative then "-inf" else "inf"
  | .finite negative significand exponent =>
    let scaled :=
      roundedQuotient (significand * Nat.pow 2 exponent.toNat * Nat.pow 10 places)
        (Nat.pow 2 (-exponent).toNat)
    let ds := (toString scaled).toList
    let padded := List.replicate (places + 1 - ds.length) '0' ++ ds
    let whole := padded.length - places
    (if negative then "-" else "") ++ .ofList (padded.take whole) ++
      (if places = 0 then "" else "." ++ .ofList (padded.drop whole))

/-- The double nearest to `± digits · 10 ^ exponent`. Exponents far outside the range of doubles are
settled before any power of ten is built. -/
def toFloat (negative : Bool) (digits : Nat) (exponent : Int) : Float :=
  let leading := (toString digits).length + exponent
  let magnitude : Float :=
    if digits = 0 || leading < -400 then 0
    else if 400 < leading then 1.0 / 0.0
    else .ofScientific digits (exponent < 0) exponent.natAbs
  if negative then -magnitude else magnitude

end WorkflowSearch.Decimal
