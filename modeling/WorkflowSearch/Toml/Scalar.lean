import WorkflowSearch.Json.Basic

namespace WorkflowSearch.Toml

def digits? (base : Nat) (cs : List Char) : Option (List Nat) :=
  let value? (c : Char) : Option Nat :=
    let v :=
      if c.isDigit then c.toNat - '0'.toNat
      else if 'a' ≤ c ∧ c ≤ 'f' then c.toNat - 'a'.toNat + 10
      else if 'A' ≤ c ∧ c ≤ 'F' then c.toNat - 'A'.toNat + 10
      else base
    if v < base then some v else none
  let rec go : List Char → Option (List Nat)
    | [] => none
    | [c] => (value? c).map ([·])
    | c :: '_' :: rest => do return (← value? c) :: (← go rest)
    | c :: rest => do return (← value? c) :: (← go rest)
  go cs

def number (base : Nat) (digits : List Nat) : Nat :=
  digits.foldl (fun n d => n * base + d) 0

def splitSign : List Char → Bool × List Char
  | '-' :: rest => (true, rest)
  | '+' :: rest => (false, rest)
  | cs => (false, cs)

def plainDigits? (cs : List Char) : Option (List Nat) := do
  let ds ← digits? 10 cs
  if cs.length ≠ 1 && cs.head? == some '0' then none else some ds

def signed? (negative : Bool) (n : Nat) : Option Json :=
  if negative then (if n ≤ UInt64.size / 2 then some (.int (-(n : Int))) else none)
  else if n < UInt64.size / 2 then some (.int n) else none

def integer? (cs : List Char) : Option Json :=
  match cs with
  | '0' :: 'x' :: rest => do signed? false (number 16 (← digits? 16 rest))
  | '0' :: 'o' :: rest => do signed? false (number 8 (← digits? 8 rest))
  | '0' :: 'b' :: rest => do signed? false (number 2 (← digits? 2 rest))
  | _ => do
    let (negative, rest) := splitSign cs
    signed? negative (number 10 (← plainDigits? rest))

def exponent? (cs : List Char) : Option Int := do
  let (negative, rest) := splitSign cs
  let n := number 10 (← digits? 10 rest)
  return if negative then -(n : Int) else n

def isExponentMark (c : Char) : Bool :=
  c = 'e' || c = 'E'

/-- A float with a fraction, an exponent or both. A positive one beyond the doubles is refused. -/
def float? (cs : List Char) : Option Json := do
  let (negative, cs) := splitSign cs
  let mantissa := cs.takeWhile (!isExponentMark ·)
  let tail := cs.dropWhile (!isExponentMark ·)
  let exponent ←
    match tail with
    | [] => some 0
    | _ :: e => exponent? e
  let whole := mantissa.takeWhile (· ≠ '.')
  let ws ← plainDigits? whole
  let fs ←
    match mantissa.dropWhile (· ≠ '.') with
    | [] => if tail.isEmpty then none else some []
    | _ :: fraction => digits? 10 fraction
  let x := Double.ofDecimal negative (number 10 (ws ++ fs)) (exponent - fs.length)
  if x.isFinite || negative then some (.float x) else none

def special? (cs : List Char) : Option Json :=
  let (negative, rest) := splitSign cs
  match String.ofList rest with
  | "inf" => some (.float (if negative then -.infinity else .infinity))
  | "nan" => some (.float (if negative then -.nan else .nan))
  | _ => none

def fixed? (width lo hi : Nat) (cs : List Char) : Option Nat := do
  if cs.length ≠ width || !cs.all Char.isDigit then none
  let n := cs.foldl (fun n c => n * 10 + (c.toNat - '0'.toNat)) 0
  if lo ≤ n ∧ n ≤ hi then some n else none

def daysIn (year month : Nat) : Nat :=
  match month with
  | 2 => if year % 4 = 0 ∧ (year % 100 ≠ 0 ∨ year % 400 = 0) then 29 else 28
  | 4 | 6 | 9 | 11 => 30
  | _ => 31

def isDate (cs : List Char) : Bool :=
  match cs.splitOn '-' with
  | [y, m, d] =>
    match fixed? 4 0 9999 y, fixed? 2 1 12 m with
    | some year, some month => (fixed? 2 1 (daysIn year month) d).isSome
    | _, _ => false
  | _ => false

def isTime (cs : List Char) : Bool :=
  match cs.splitOn ':' with
  | [h, m, s] =>
    let fraction :=
      match s.drop 2 with
      | [] => true
      | '.' :: ds => !ds.isEmpty && ds.all Char.isDigit
      | _ => false
    (fixed? 2 0 23 h).isSome && (fixed? 2 0 59 m).isSome && (fixed? 2 0 60 (s.take 2)).isSome &&
      fraction
  | _ => false

def isTimeWithOffset (cs : List Char) : Bool :=
  let offset := cs.drop (cs.length - 6)
  let isOffset :=
    match offset with
    | sign :: rest =>
      (sign = '+' || sign = '-') &&
        match rest.splitOn ':' with
        | [h, m] => (fixed? 2 0 23 h).isSome && (fixed? 2 0 59 m).isSome
        | _ => false
    | [] => false
  match cs.getLast? with
  | some 'Z' | some 'z' => isTime cs.dropLast
  | _ => isTime cs || (isOffset && isTime (cs.take (cs.length - 6)))

/-- A date, a time, or both with a separator between them. -/
def moment? (cs : List Char) : Option Json :=
  let separated :=
    match cs.drop 10 with
    | 'T' :: time | 't' :: time | ' ' :: time => isDate (cs.take 10) && isTimeWithOffset time
    | _ => false
  if isDate cs || isTime cs || separated then
    some (.obj [("$__toml_private_datetime", .str (.ofList cs))])
  else none

def scalar? (word : List Char) : Option Json :=
  match String.ofList word with
  | "true" => some (.bool true)
  | "false" => some (.bool false)
  | _ => integer? word <|> float? word <|> special? word <|> moment? word

end WorkflowSearch.Toml
