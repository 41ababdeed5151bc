namespace WorkflowSearch

class Scalar (α : Type) extends Zero α, One α, Add α, Sub α, Mul α, Div α, Neg α, NatCast α,
    OfScientific α, LT α, LE α where
  decidableLT : DecidableLT α
  decidableLE : DecidableLE α
  /-- A total order; on doubles it also places the values that `<` leaves incomparable. -/
  order : α → α → Ordering
  isFinite : α → Bool
  sqrt : α → α
  ln : α → α
  /-- The integer part, from `0` to `2 ^ 64 - 1`. -/
  floorNat : α → Nat
  /-- The nearest integer, a half upwards, from `0` to `2 ^ 64 - 1`. -/
  roundNat : α → Nat
  /-- The shortest digits that read back, without an exponent. -/
  text : α → String
  text2 : α → String

namespace Scalar

attribute [reducible, instance] decidableLT decidableLE

variable {α : Type} [Scalar α]

/-- The larger number; a number is preferred to a value that is not one. -/
def max (a b : α) : α :=
  if a ≤ a then (if a < b then b else a) else b

/-- The smaller number; a number is preferred to a value that is not one. -/
def min (a b : α) : α :=
  if a ≤ a then (if b < a then b else a) else b

def clamp (lo hi a : α) : α :=
  if a < lo then lo else if hi < a then hi else a

def abs (a : α) : α :=
  if a < 0 then -a else a

def square (a : α) : α :=
  a * a

/-- Adds from left to right. -/
def sum (xs : List α) : α :=
  xs.foldl (· + ·) 0

def powAcc (acc a : α) (n : Nat) : α :=
  let acc := if n % 2 = 1 then acc * a else acc
  if _h : n / 2 = 0 then acc else powAcc acc (a * a) (n / 2)
termination_by n

/-- An integral power; a negative exponent takes the reciprocal of the whole power. -/
def pow (a : α) (n : Int) : α :=
  let r := powAcc 1 a n.natAbs
  if n < 0 then 1 / r else r

def isNonNegative (a : α) : Bool :=
  isFinite a && decide (0 ≤ a)

def isPositive (a : α) : Bool :=
  isFinite a && decide (0 < a)

end Scalar

end WorkflowSearch
