import WorkflowSearch.Scalar.Basic
import WorkflowSearch.Decimal.Layout

namespace WorkflowSearch

structure Double where
  value : Float
  /-- The sign of a value that is not a number. -/
  nanNegative : Bool := false
  deriving Inhabited

namespace Double

def isNaN (x : Double) : Bool :=
  x.value.isNaN

def isFinite (x : Double) : Bool :=
  x.value.isFinite

def ofResult (value : Float) : Double :=
  { value, nanNegative := value.isNaN }

def unary (op : Float → Float) (a : Double) : Double :=
  if a.isNaN then a else ofResult (op a.value)

/-- The result of an operation on numbers, or the first operand that is not one. -/
def binary (op : Float → Float → Float) (a b : Double) : Double :=
  if a.isNaN then a else if b.isNaN then b else ofResult (op a.value b.value)

def neg (a : Double) : Double :=
  { value := -a.value, nanNegative := a.isNaN && !a.nanNegative }

def nan : Double :=
  { value := 0.0 / 0.0 }

def infinity : Double :=
  { value := 1.0 / 0.0 }

def bits (x : Double) : Nat :=
  x.value.toBits.toNat + if x.isNaN && x.nanNegative then Decimal.Binary64.signBit else 0

/-- An integer that grows with the double: the sign comes first, and the magnitude bits of negative
ones count downwards. -/
def orderKey (x : Double) : Int :=
  let magnitude := x.bits - Decimal.Binary64.signBit
  if Decimal.Binary64.signBit ≤ x.bits then .negSucc magnitude else x.bits

def ofDecimal (negative : Bool) (digits : Nat) (exponent : Int) : Double :=
  { value := Decimal.toFloat negative digits exponent }

def documentText (x : Double) : String :=
  Decimal.Layout.document.text (.ofFloat x.value)

end Double

instance : Scalar Double where
  zero := { value := 0.0 }
  one := { value := 1.0 }
  add := Double.binary (· + ·)
  sub := Double.binary (· - ·)
  mul := Double.binary (· * ·)
  div := Double.binary (· / ·)
  neg := Double.neg
  natCast n := { value := Float.ofNat n }
  ofScientific mantissa negative exponent :=
    { value := .ofScientific mantissa negative exponent }
  lt a b := a.value < b.value
  le a b := a.value ≤ b.value
  decidableLT a b := Float.decLt a.value b.value
  decidableLE a b := Float.decLe a.value b.value
  order a b := compare a.orderKey b.orderKey
  isFinite := Double.isFinite
  sqrt := Double.unary Float.sqrt
  ln := Double.unary Float.log
  floorNat a := a.value.toUInt64.toNat
  roundNat a := a.value.round.toUInt64.toNat
  text a := Decimal.Layout.message.text (.ofFloat a.value)
  text2 a := Decimal.fixedText 2 (.ofFloat a.value)

end WorkflowSearch
