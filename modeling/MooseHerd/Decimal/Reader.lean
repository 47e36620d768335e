import MooseHerd.Decimal.Nearest

/-! Numbers from text that holds nothing else. -/

namespace MooseHerd.Decimal

/-- The value of decimal digits, of which there must be at least one. -/
def digits? (cs : List Char) : Option Nat :=
  if cs.isEmpty || !cs.all Char.isDigit then none
  else some (cs.foldl (fun n c => 10 * n + (c.toNat - '0'.toNat)) 0)

/-- A sign, if there is one, and what follows it: whether it is a minus sign. -/
def takeSign : List Char → Bool × List Char
  | '-' :: rest => (true, rest)
  | '+' :: rest => (false, rest)
  | cs => (false, cs)

def natural? (s : String) : Option Nat :=
  match s.toList with
  | '+' :: rest => digits? rest
  | cs => digits? cs

def integer? (s : String) : Option Int :=
  let (negative, cs) := takeSign s.toList
  (digits? cs).map fun n => if negative then -(n : Int) else n

/-- How many of the whole numbers of 64 bits with a sign are negative. -/
def int64Size : Nat := 9223372036854775808

def isInt64 (n : Int) : Bool := -(int64Size : Int) ≤ n && n < int64Size

/-- The digits before and after the point; there may be none at one of the two places. -/
def mantissa? (cs : List Char) : Option (Nat × Int) :=
  let (whole, rest) := cs.span (· ≠ '.')
  let fraction := rest.drop 1
  (digits? (whole ++ fraction)).map fun n => (n, -(fraction.length : Int))

def exponent? : List Char → Option Int
  | [] => some 0
  | _ :: cs =>
    let (negative, cs) := takeSign cs
    (digits? cs).map fun n => if negative then -(n : Int) else n

/-- A number without its sign, also infinity or not a number by their names. -/
def magnitude? (cs : List Char) : Option Float :=
  let name := String.ofList (cs.map Char.toLower)
  if name = "inf" ∨ name = "infinity" then some (Float.ofBits infinityBits)
  else if name = "nan" then some (Float.ofBits 0x7ff8000000000000)
  else
    let (written, rest) := cs.span fun c => c ≠ 'e' ∧ c ≠ 'E'
    match mantissa? written, exponent? rest with
    | some (significand, power), some e => some (nearest significand (power + e))
    | _, _ => none

def real? (s : String) : Option Float :=
  let (negative, cs) := takeSign s.toList
  (magnitude? cs).map fun x => if negative then -x else x

end MooseHerd.Decimal
