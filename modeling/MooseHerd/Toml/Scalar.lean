import MooseHerd.Decimal.Reader
import MooseHerd.Json.Reader
import MooseHerd.Toml.Basic

/-! Values that are written without quotation marks or brackets: numbers, dates and truth values.
The reader gets the whole run of characters of a value. -/

namespace MooseHerd.Toml

/-! ### Numbers -/

/-- The digits of a number, of which there is at least one. Underscores may stand between two
digits only. -/
def digitsOf (isDigit : Char → Bool) : List Char → Option (List Char)
  | [] => none
  | [c] => if isDigit c then some [c] else none
  | c :: '_' :: rest => if isDigit c then (digitsOf isDigit rest).map (c :: ·) else none
  | c :: rest => if isDigit c then (digitsOf isDigit rest).map (c :: ·) else none

def valueIn (base : Nat) (ds : List Char) : Nat :=
  ds.foldl (fun n c => base * n + (Json.hexValue? c).getD 0) 0

def isOctal (c : Char) : Bool := '0' ≤ c && c ≤ '7'

def isBinary (c : Char) : Bool := c = '0' || c = '1'

def isHex (c : Char) : Bool := (Json.hexValue? c).isSome

/-- Decimal digits without a superfluous zero at the front. -/
def decimalDigits (cs : List Char) : Option (List Char) := do
  let ds ← digitsOf Char.isDigit cs
  if ds.length > 1 && ds.head? = some '0' then none else some ds

/-- A whole number, in decimal or with the sign of another base. -/
def integer? (cs : List Char) : Option Int := do
  let n : Int ← match cs with
    | '0' :: 'x' :: ds => (digitsOf isHex ds).map fun ds => (valueIn 16 ds : Int)
    | '0' :: 'o' :: ds => (digitsOf isOctal ds).map fun ds => (valueIn 8 ds : Int)
    | '0' :: 'b' :: ds => (digitsOf isBinary ds).map fun ds => (valueIn 2 ds : Int)
    | cs =>
      let (negative, ds) := Decimal.takeSign cs
      (decimalDigits ds).map fun ds =>
        if negative then -(valueIn 10 ds : Int) else (valueIn 10 ds : Int)
  if Decimal.isInt64 n then some n else none

def fraction? : List Char → Option (List Char)
  | [] => some []
  | _ :: cs => digitsOf Char.isDigit cs

def exponent? : List Char → Option Int
  | [] => some 0
  | _ :: cs => do
    let (negative, cs) := Decimal.takeSign cs
    let n : Int := valueIn 10 (← digitsOf Char.isDigit cs)
    return if negative then -n else n

/-- A number with a point or an exponent. One beyond the greatest double is no number. -/
def finite? (cs : List Char) : Option Float := do
  let (mantissa, e) := cs.span fun c => c ≠ 'e' ∧ c ≠ 'E'
  let (before, point) := mantissa.span (· ≠ '.')
  if e.isEmpty && point.isEmpty then none
  let before ← decimalDigits before
  let after ← fraction? point
  let x := Decimal.nearest (valueIn 10 (before ++ after)) ((← exponent? e) - after.length)
  if x.isFinite then some x else none

def real? (cs : List Char) : Option Float :=
  let (negative, cs) := Decimal.takeSign cs
  let x? := match cs with
    | ['i', 'n', 'f'] => some (Float.ofBits Decimal.infinityBits)
    | ['n', 'a', 'n'] => some (Float.ofBits 0x7ff8000000000000)
    | cs => finite? cs
  x?.map fun x => if negative then -x else x

/-! ### Dates and times -/

/-- A number of exactly `count` digits at the front. -/
def takeNumber? (count : Nat) (cs : List Char) : Option (Nat × List Char) :=
  if (cs.take count).length = count then
    (Decimal.digits? (cs.take count)).map (·, cs.drop count)
  else none

def takeMark? (marks : List Char) : List Char → Option (List Char)
  | c :: rest => if c ∈ marks then some rest else none
  | [] => none

def padded (width n : Nat) : List Char :=
  let ds := Nat.toDigits 10 n
  List.replicate (width - ds.length) '0' ++ ds

def isLeapYear (year : Nat) : Bool := year % 4 == 0 && (year % 100 != 0 || year % 400 == 0)

def daysIn (year month : Nat) : Nat :=
  if month = 2 then (if isLeapYear year then 29 else 28)
  else if month ∈ [4, 6, 9, 11] then 30
  else 31

/-- A date in its standard form, and what follows it. -/
def takeDate? (cs : List Char) : Option (List Char × List Char) := do
  let (year, cs) ← takeNumber? 4 cs
  let (month, cs) ← takeNumber? 2 (← takeMark? ['-'] cs)
  let (day, cs) ← takeNumber? 2 (← takeMark? ['-'] cs)
  if 1 ≤ month ∧ month ≤ 12 ∧ 1 ≤ day ∧ day ≤ daysIn year month then
    some (padded 4 year ++ '-' :: padded 2 month ++ '-' :: padded 2 day, cs)
  else none

/-- The fraction of a second to nine places, without zeros at its end. -/
def takeFraction? : List Char → Option (List Char × List Char)
  | '.' :: cs =>
    let (ds, rest) := cs.span Char.isDigit
    if ds.isEmpty then none
    else
      let kept := ((ds.take 9).reverse.dropWhile (· = '0')).reverse
      some ('.' :: (if kept.isEmpty then ['0'] else kept), rest)
  | cs => some ([], cs)

def takeSeconds? : List Char → Option (List Char × List Char)
  | ':' :: cs => do
    let (second, cs) ← takeNumber? 2 cs
    let (fraction, cs) ← takeFraction? cs
    if second ≤ 60 then some (':' :: padded 2 second ++ fraction, cs) else none
  | cs => some ([], cs)

/-- A time of day in its standard form, and what follows it. -/
def takeTime? (cs : List Char) : Option (List Char × List Char) := do
  let (hour, cs) ← takeNumber? 2 cs
  let (minute, cs) ← takeNumber? 2 (← takeMark? [':'] cs)
  let (seconds, cs) ← takeSeconds? cs
  if hour ≤ 23 ∧ minute ≤ 59 then
    some (padded 2 hour ++ ':' :: padded 2 minute ++ seconds, cs)
  else none

/-- The offset from universal time at the end, if there is one. -/
def offset? : List Char → Option (List Char)
  | [] => some []
  | ['Z'] | ['z'] => some ['Z']
  | sign :: cs => do
    let _ ← takeMark? ['+', '-'] [sign]
    let (hours, cs) ← takeNumber? 2 cs
    let (minutes, cs) ← takeNumber? 2 (← takeMark? [':'] cs)
    if cs.isEmpty ∧ minutes ≤ 59 ∧ 60 * hours + minutes ≤ 24 * 60 then
      let sign := if hours = 0 ∧ minutes = 0 then '+' else sign
      some (sign :: padded 2 hours ++ ':' :: padded 2 minutes)
    else none

/-- A date, a time of day or both, in their standard form. -/
def moment? (cs : List Char) : Option String :=
  match takeDate? cs with
  | some (date, []) => some (String.ofList date)
  | some (date, rest) => do
    let (time, rest) ← takeTime? (← takeMark? ['T', 't', ' '] rest)
    return String.ofList (date ++ 'T' :: time ++ (← offset? rest))
  | none => match takeTime? cs with
    | some (time, []) => some (String.ofList time)
    | _ => none

/-! ### Values -/

def scalar? (cs : List Char) : Option Toml :=
  if cs = ['t', 'r', 'u', 'e'] then some (.flag true)
  else if cs = ['f', 'a', 'l', 's', 'e'] then some (.flag false)
  else match integer? cs, real? cs, moment? cs with
    | some n, _, _ => some (.whole n)
    | none, some x, _ => some (.real x)
    | none, none, some s => some (.moment s)
    | none, none, none => none

end MooseHerd.Toml
