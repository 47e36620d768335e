import MooseHerd.Decimal.Reader

/-! Whole numbers of a limited range from text, with the reason where there is none. The digits are
read from the left, so the first thing that is wrong is what counts. -/

namespace MooseHerd.Decimal

/-- Why a text is not a number of the range. -/
inductive Flaw where
  | empty
  | invalidDigit
  | tooLarge
  | tooSmall
  deriving Repr, BEq, DecidableEq

def Flaw.message : Flaw → String
  | empty => "cannot parse integer from empty string"
  | invalidDigit => "invalid digit found in string"
  | tooLarge => "number too large to fit in target type"
  | tooSmall => "number too small to fit in target type"

/-- Reads digits after those whose value is `n`; no value may be above the limit. -/
def digitsWithin (limit : Nat) (beyond : Flaw) : Nat → List Char → Except Flaw Nat
  | n, [] => .ok n
  | n, c :: cs =>
    if !c.isDigit then .error .invalidDigit
    else
      let m := 10 * n + (c.toNat - '0'.toNat)
      if m ≤ limit then digitsWithin limit beyond m cs else .error beyond

def someDigitsWithin (limit : Nat) (beyond : Flaw) (cs : List Char) : Except Flaw Nat :=
  if cs.isEmpty then .error .invalidDigit else digitsWithin limit beyond 0 cs

def int64 (s : String) : Except Flaw Int :=
  match s.toList with
  | [] => .error .empty
  | '-' :: cs => (someDigitsWithin int64Size .tooSmall cs).map fun n => -(n : Int)
  | '+' :: cs => (someDigitsWithin (int64Size - 1) .tooLarge cs).map Int.ofNat
  | cs => (someDigitsWithin (int64Size - 1) .tooLarge cs).map Int.ofNat

/-- A number of 64 bits without a sign; a plus sign may stand before it. -/
def uint64 (s : String) : Except Flaw UInt64 :=
  match s.toList with
  | [] => .error .empty
  | '+' :: cs => (someDigitsWithin (UInt64.size - 1) .tooLarge cs).map Nat.toUInt64
  | cs => (someDigitsWithin (UInt64.size - 1) .tooLarge cs).map Nat.toUInt64

end MooseHerd.Decimal
