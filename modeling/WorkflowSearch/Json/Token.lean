import WorkflowSearch.Json.Basic

namespace WorkflowSearch.Json

inductive Token where
  | openArr
  | closeArr
  | openObj
  | closeObj
  | comma
  | colon
  | str (value : String)
  | scalar (value : Json)
  deriving Inhabited

namespace Token

def isSpace (c : Char) : Bool :=
  c = ' ' || c = '\t' || c = '\n' || c = '\r'

def hexDigit? (c : Char) : Option Nat :=
  if c.isDigit then some (c.toNat - '0'.toNat)
  else if 'a' ≤ c ∧ c ≤ 'f' then some (c.toNat - 'a'.toNat + 10)
  else if 'A' ≤ c ∧ c ≤ 'F' then some (c.toNat - 'A'.toNat + 10)
  else none

def hex4? (a b c d : Char) : Option Nat := do
  return (((← hexDigit? a) * 16 + (← hexDigit? b)) * 16 + (← hexDigit? c)) * 16 + (← hexDigit? d)

def simpleEscape? : Char → Option Char
  | '"' => some '"'
  | '\\' => some '\\'
  | '/' => some '/'
  | 'b' => some '\x08'
  | 'f' => some '\x0c'
  | 'n' => some '\n'
  | 'r' => some '\r'
  | 't' => some '\t'
  | _ => none

/-- The rest of a string after its opening quote, and what follows the closing one. Surrogates
occur in pairs only, and control characters only escaped. -/
def scanString (acc : List Char) : List Char → Option (String × List Char)
  | '"' :: rest => some (.ofList acc.reverse, rest)
  | '\\' :: 'u' :: a :: b :: c :: d :: rest =>
    match hex4? a b c d with
    | none => none
    | some high =>
      if 0xD800 ≤ high ∧ high < 0xDC00 then
        match rest with
        | '\\' :: 'u' :: e :: f :: g :: h :: rest' =>
          match hex4? e f g h with
          | none => none
          | some low =>
            if 0xDC00 ≤ low ∧ low < 0xE000 then
              let code := 0x10000 + (high - 0xD800) * 0x400 + (low - 0xDC00)
              scanString (Char.ofNat code :: acc) rest'
            else none
        | _ => none
      else if 0xDC00 ≤ high ∧ high < 0xE000 then none
      else scanString (Char.ofNat high :: acc) rest
  | '\\' :: e :: rest =>
    match simpleEscape? e with
    | some c => scanString (c :: acc) rest
    | none => none
  | c :: rest => if c.toNat < 0x20 then none else scanString (c :: acc) rest
  | [] => none

def scanDigits (value count : Nat) : List Char → Nat × Nat × List Char
  | c :: rest =>
    if c.isDigit then scanDigits (value * 10 + (c.toNat - '0'.toNat)) (count + 1) rest
    else (value, count, c :: rest)
  | [] => (value, count, [])

/-- An integral number of the 64-bit range stays an integer; any other number is a double, and one
beyond the doubles is refused. -/
def number? (negative : Bool) (digits : Nat) (exponent : Int) (integral : Bool) :
    Option Json :=
  let value : Int := if negative then -(digits : Int) else digits
  let inRange :=
    if negative then digits ≠ 0 ∧ digits ≤ UInt64.size / 2 else digits < UInt64.size
  if integral && inRange then some (.int value)
  else
    let x := Double.ofDecimal negative digits exponent
    if x.isFinite then some (.float x) else none

def scanExponent (cs : List Char) : Option (Option Int × List Char) :=
  let signed (negative : Bool) (rest : List Char) : Option (Option Int × List Char) :=
    let (value, count, rest) := scanDigits 0 0 rest
    if count = 0 then none
    else some (some (if negative then -(value : Int) else value), rest)
  match cs with
  | 'e' :: '-' :: rest | 'E' :: '-' :: rest => signed true rest
  | 'e' :: '+' :: rest | 'E' :: '+' :: rest => signed false rest
  | 'e' :: rest | 'E' :: rest => signed false rest
  | _ => some (none, cs)

def scanNumber (negative : Bool) (cs : List Char) : Option (Json × List Char) := do
  let (whole, count, rest) := scanDigits 0 0 cs
  if count = 0 || (1 < count && cs.head? == some '0') then none
  let (digits, places, rest) ←
    match rest with
    | '.' :: rest =>
      let (digits, total, rest) := scanDigits whole 0 rest
      if total = 0 then none else some (digits, total, rest)
    | _ => some (whole, 0, rest)
  let (exponent, rest) ← scanExponent rest
  let number ← number? negative digits (exponent.getD 0 - places) (places = 0 && exponent.isNone)
  return (number, rest)

def scanOne : List Char → Option (Token × List Char)
  | '[' :: rest => some (.openArr, rest)
  | ']' :: rest => some (.closeArr, rest)
  | '\x7b' :: rest => some (.openObj, rest)
  | '\x7d' :: rest => some (.closeObj, rest)
  | ',' :: rest => some (.comma, rest)
  | ':' :: rest => some (.colon, rest)
  | '"' :: rest => (scanString [] rest).map fun (s, rest) => (.str s, rest)
  | 't' :: 'r' :: 'u' :: 'e' :: rest => some (.scalar (.bool true), rest)
  | 'f' :: 'a' :: 'l' :: 's' :: 'e' :: rest => some (.scalar (.bool false), rest)
  | 'n' :: 'u' :: 'l' :: 'l' :: rest => some (.scalar .null, rest)
  | '-' :: rest => (scanNumber true rest).map fun (n, rest) => (.scalar n, rest)
  | cs => (scanNumber false cs).map fun (n, rest) => (.scalar n, rest)

/-- All tokens of a text; every token takes at least one of its characters. -/
def scanAll (acc : List Token) : Nat → List Char → Option (List Token)
  | 0, cs => if cs.all isSpace then some acc.reverse else none
  | steps + 1, cs =>
    match cs.dropWhile isSpace with
    | [] => some acc.reverse
    | cs =>
      match scanOne cs with
      | some (token, rest) => scanAll (token :: acc) steps rest
      | none => none

def scan (s : String) : Option (List Token) :=
  let cs := s.toList
  scanAll [] cs.length cs

end Token

end WorkflowSearch.Json
