import MooseHerd.Json.Basic

/-! Documents from text. The reader takes what it needs from the front of the remaining characters
and reports the first fault that it meets. Nesting is bounded; the fuel of the recursive functions
is the length of the text, which no document outruns. -/

namespace MooseHerd.Json

/-- Why a text is not the document that was asked for. -/
inductive Fault where
  /-- A character that cannot stand where it does. -/
  | malformed
  /-- The text ends within the document. -/
  | truncated
  /-- A document of another shape than the one asked for. -/
  | mismatched (message : String)
  deriving Repr, BEq, Inhabited

/-- The outcome of reading. A reader gives what it read with the characters after it. -/
abbrev Attempt := Except Fault

def isBlank (c : Char) : Bool := c = ' ' || c = '\n' || c = '\t' || c = '\r'

def skipBlanks (cs : List Char) : List Char := cs.dropWhile isBlank

def expect : List Char → List Char → Attempt (List Char)
  | [], cs => .ok cs
  | _ :: _, [] => .error .truncated
  | e :: es, c :: cs => if c = e then expect es cs else .error .malformed

/-! ### Numbers -/

def isDigit (c : Char) : Bool := '0' ≤ c && c ≤ '9'

def digitValue (c : Char) : Nat := c.toNat - '0'.toNat

/-- The parts of a written number: digits before and after the point, if there is one, and the
exponent, if there is one. -/
structure Numeral where
  whole : List Char
  fraction : Option (List Char)
  exponent : Option Int

def takeDigits (cs : List Char) : Attempt (List Char × List Char) :=
  match cs.span isDigit with
  | ([], []) => .error .truncated
  | ([], _ :: _) => .error .malformed
  | (ds, rest) => .ok (ds, rest)

/-- The digits before the point: a leading zero stands alone. -/
def takeWhole (cs : List Char) : Attempt (List Char × List Char) := do
  let (ds, rest) ← takeDigits cs
  if ds.length > 1 && ds.head? = some '0' then .error .malformed else .ok (ds, rest)

def takeFraction : List Char → Attempt (Option (List Char) × List Char)
  | '.' :: rest => do
    let (ds, rest) ← takeDigits rest
    return (some ds, rest)
  | cs => .ok (none, cs)

def natOfDigits (ds : List Char) : Nat := ds.foldl (fun n c => 10 * n + digitValue c) 0

def takeExponent : List Char → Attempt (Option Int × List Char)
  | c :: rest =>
    if c = 'e' ∨ c = 'E' then do
      let (negative, rest) := match rest with
        | '-' :: rest => (true, rest)
        | '+' :: rest => (false, rest)
        | rest => (false, rest)
      let (ds, rest) ← takeDigits rest
      let n : Int := natOfDigits ds
      return (some (if negative then -n else n), rest)
    else .ok (none, c :: rest)
  | [] => .ok (none, [])

def takeNumeral (cs : List Char) : Attempt (Numeral × List Char) := do
  let (whole, cs) ← takeWhole cs
  let (fraction, cs) ← takeFraction cs
  let (exponent, cs) ← takeExponent cs
  return ({ whole, fraction, exponent }, cs)

/-- Appends digits to a significand as long as it stays a 64-bit word; also gives the number of
digits that did not fit. -/
def accumulate (significand : Nat) : List Char → Nat × Nat
  | [] => (significand, 0)
  | d :: ds =>
    let next := 10 * significand + digitValue d
    if next < UInt64.size then accumulate next ds else (significand, ds.length + 1)

def powerOfTen (n : Nat) : Float := Float.ofScientific 1 false n

/-- Divides by powers of ten, at most `10 ^ 308` at a time. -/
def shrink : Nat → Float → Nat → Float
  | 0, x, _ => x
  | steps + 1, x, n =>
    if n ≤ 308 then x / powerOfTen n
    else if x == 0 then x
    else shrink steps (x / powerOfTen 308) (n - 308)

/-- The double nearest to a significand, scaled by a power of ten with at most one more rounding a
factor. There is none beyond the greatest double. -/
def scaled? (significand : Nat) (power : Int) : Option Float :=
  let x := significand.toUInt64.toFloat
  if power < 0 then some (shrink 4 x power.natAbs)
  else if x == 0 then some x
  else if power ≤ 308 then
    let y := x * powerOfTen power.toNat
    if y.isInf then none else some y
  else none

/-- The number of a numeral. One without point and exponent is whole if a 64-bit word holds it;
there is no whole negative zero. -/
def Numeral.number? (n : Numeral) (negative : Bool) : Option Number :=
  let (significand, dropped) := accumulate 0 n.whole
  let signed (x : Float) := if negative then -x else x
  match n.fraction, n.exponent with
  | none, none =>
    if dropped = 0 then
      if !negative then some (.whole significand)
      else if 0 < significand ∧ significand ≤ UInt64.size / 2 then some (.whole (-significand))
      else some (.real (signed significand.toUInt64.toFloat))
    else (scaled? significand dropped).map fun x => .real (signed x)
  | fraction, exponent =>
    let places := fraction.getD []
    let (significand, unread) := accumulate significand places
    let power : Int := (dropped : Int) - ((places.length - unread : Nat) : Int) + exponent.getD 0
    (scaled? significand power).map fun x => .real (signed x)

def readNumber (negative : Bool) (cs : List Char) : Attempt (Number × List Char) := do
  let (numeral, rest) ← takeNumeral cs
  match numeral.number? negative with
  | some n => return (n, rest)
  | none => .error .malformed

/-! ### Strings -/

def hexValue? (c : Char) : Option Nat :=
  if isDigit c then some (digitValue c)
  else if 'a' ≤ c && c ≤ 'f' then some (c.toNat - 'a'.toNat + 10)
  else if 'A' ≤ c && c ≤ 'F' then some (c.toNat - 'A'.toNat + 10)
  else none

/-- Four hexadecimal digits. A text that ends before them counts as cut off. -/
def readHex4 (cs : List Char) : Attempt (Nat × List Char) :=
  match cs with
  | a :: b :: c :: d :: rest =>
    match hexValue? a, hexValue? b, hexValue? c, hexValue? d with
    | some a, some b, some c, some d => .ok (4096 * a + 256 * b + 16 * c + d, rest)
    | _, _, _, _ => .error .malformed
  | cs => if (String.ofList cs).utf8ByteSize < 4 then .error .truncated else .error .malformed

def isHighSurrogate (n : Nat) : Bool := 0xd800 ≤ n && n < 0xdc00

def isLowSurrogate (n : Nat) : Bool := 0xdc00 ≤ n && n < 0xe000

/-- The second half of a surrogate pair. -/
def readLowSurrogate (cs : List Char) : Attempt (Nat × List Char) := do
  let cs ← expect ['\\', 'u'] cs
  let (n, rest) ← readHex4 cs
  if isLowSurrogate n then .ok (n, rest) else .error .malformed

/-- The character of an escape, after the backslash. -/
def readEscape : List Char → Attempt (Char × List Char)
  | [] => .error .truncated
  | '"' :: rest => .ok ('"', rest)
  | '\\' :: rest => .ok ('\\', rest)
  | '/' :: rest => .ok ('/', rest)
  | 'b' :: rest => .ok ('\x08', rest)
  | 'f' :: rest => .ok ('\x0c', rest)
  | 'n' :: rest => .ok ('\n', rest)
  | 'r' :: rest => .ok ('\r', rest)
  | 't' :: rest => .ok ('\t', rest)
  | 'u' :: rest => do
    let (n, rest) ← readHex4 rest
    if isLowSurrogate n then .error .malformed
    else if isHighSurrogate n then
      let (m, rest) ← readLowSurrogate rest
      return (Char.ofNat (0x10000 + 1024 * (n - 0xd800) + (m - 0xdc00)), rest)
    else return (Char.ofNat n, rest)
  | _ => .error .malformed

/-- The characters of a string up to its closing quotation mark, in reverse order before `acc`. -/
def readCharsWithin : Nat → List Char → List Char → Attempt (List Char × List Char)
  | 0, _, _ => .error .truncated
  | _, _, [] => .error .truncated
  | fuel + 1, acc, c :: rest =>
    if c = '"' then .ok (acc.reverse, rest)
    else if c = '\\' then do
      let (e, rest) ← readEscape rest
      readCharsWithin fuel (e :: acc) rest
    else if c.toNat < 0x20 then .error .malformed
    else readCharsWithin fuel (c :: acc) rest

def readString (cs : List Char) : Attempt (String × List Char) := do
  let (chars, rest) ← readCharsWithin (cs.length + 1) [] cs
  return (String.ofList chars, rest)

/-! ### Documents -/

/-- The nesting that a document may have. -/
def nestingLimit : Nat := 127

/-- The name of a member, before its colon. `first` tells whether a comma is due before it; the
result is `none` at the end of the object. -/
def readName (first : Bool) (cs : List Char) : Attempt (Option String × List Char) :=
  let name (rest : List Char) : Attempt (Option String × List Char) := do
    let (s, rest) ← readString rest
    return (some s, rest)
  match skipBlanks cs with
  | [] => .error .truncated
  | '\x7d' :: rest => .ok (none, rest)
  | '"' :: rest => if first then name rest else .error .malformed
  | ',' :: rest =>
    if first then .error .malformed
    else match skipBlanks rest with
      | [] => .error .truncated
      | '"' :: rest => name rest
      | _ :: _ => .error .malformed
  | _ :: _ => .error .malformed

def readColon (cs : List Char) : Attempt (List Char) := expect [':'] (skipBlanks cs)

/-- Whether another item follows in an array, and the characters from it on, or after the array. -/
def readSeparator (first : Bool) (cs : List Char) : Attempt (Bool × List Char) :=
  match skipBlanks cs with
  | [] => .error .truncated
  | ']' :: rest => .ok (false, rest)
  | ',' :: rest =>
    if first then .ok (true, ',' :: rest)
    else match skipBlanks rest with
      | [] => .error .truncated
      | ']' :: _ => .error .malformed
      | c :: rest => .ok (true, c :: rest)
  | c :: rest => if first then .ok (true, c :: rest) else .error .malformed

mutual

/-- A document. `depth` levels of arrays and objects may still be opened. -/
def readValue : Nat → Nat → List Char → Attempt (Json × List Char)
  | 0, _, _ => .error .truncated
  | fuel + 1, depth, cs =>
    match skipBlanks cs with
    | [] => .error .truncated
    | 'n' :: rest => do return (.null, ← expect ['u', 'l', 'l'] rest)
    | 't' :: rest => do return (.bool true, ← expect ['r', 'u', 'e'] rest)
    | 'f' :: rest => do return (.bool false, ← expect ['a', 'l', 's', 'e'] rest)
    | '-' :: rest => do
      let (n, rest) ← readNumber true rest
      return (.number n, rest)
    | '"' :: rest => do
      let (s, rest) ← readString rest
      return (.string s, rest)
    | '[' :: rest =>
      match depth with
      | 0 => .error .malformed
      | depth + 1 => readItems fuel depth true [] rest
    | '\x7b' :: rest =>
      match depth with
      | 0 => .error .malformed
      | depth + 1 => readMembers fuel depth true [] rest
    | c :: rest =>
      if isDigit c then do
        let (n, rest) ← readNumber false (c :: rest)
        return (.number n, rest)
      else .error .malformed

/-- The items of an array, those already read before them in reverse order. -/
def readItems : Nat → Nat → Bool → List Json → List Char → Attempt (Json × List Char)
  | 0, _, _, _, _ => .error .truncated
  | fuel + 1, depth, first, acc, cs => do
    match ← readSeparator first cs with
    | (false, rest) => return (.array acc.reverse, rest)
    | (true, rest) =>
      let (item, rest) ← readValue fuel depth rest
      readItems fuel depth false (item :: acc) rest

/-- The members of an object, added to those already read. -/
def readMembers : Nat → Nat → Bool → List (String × Json) → List Char → Attempt (Json × List Char)
  | 0, _, _, _, _ => .error .truncated
  | fuel + 1, depth, first, acc, cs => do
    match ← readName first cs with
    | (none, rest) => return (.object acc, rest)
    | (some name, rest) =>
      let rest ← readColon rest
      let (value, rest) ← readValue fuel depth rest
      readMembers fuel depth false (insertMember name value acc) rest

end

/-- The fuel that suffices for a text. -/
def fuelFor (cs : List Char) : Nat := 2 * cs.length + 2

/-- After a document only blanks may follow. -/
def finish {α : Type} : α × List Char → Attempt α
  | (a, rest) => if (skipBlanks rest).isEmpty then .ok a else .error .malformed

def parse (text : String) : Attempt Json := do
  let cs := text.toList
  finish (← readValue (fuelFor cs) nestingLimit cs)

end MooseHerd.Json
