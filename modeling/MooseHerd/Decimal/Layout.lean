import MooseHerd.Decimal.Shortest

/-! How a double is written once its digits are chosen. -/

namespace MooseHerd.Decimal

/-- The decisions of a number format. -/
structure Layout where
  /-- The powers of the leading digit that are written without an exponent, if only some are. -/
  plain : Option (Int × Int)
  /-- Whether a number without a fraction takes `.0`. -/
  marksWhole : Bool
  /-- Whether a positive exponent takes a sign. -/
  marksPlus : Bool

def digitText (n : Nat) : List Char := Nat.toDigits 10 n

/-- The digits with a decimal point where the power puts it. -/
def Layout.plainText (layout : Layout) (x : Digits) : List Char :=
  let ds := digitText x.digits
  let whole := if layout.marksWhole then ['.', '0'] else []
  if 0 ≤ x.power then ds ++ List.replicate x.power.toNat '0' ++ whole
  else
    let places := (-x.power).toNat
    if places < ds.length then
      ds.take (ds.length - places) ++ '.' :: ds.drop (ds.length - places)
    else '0' :: '.' :: (List.replicate (places - ds.length) '0' ++ ds)

/-- The leading digit, the others after a point, and the power of the leading digit. -/
def Layout.exponentText (layout : Layout) (x : Digits) : List Char :=
  let ds := digitText x.digits
  let e := x.power + ds.length - 1
  let sign := if e < 0 then ['-'] else if layout.marksPlus then ['+'] else []
  ds.take 1 ++ (if ds.length ≤ 1 then [] else '.' :: ds.drop 1) ++ 'e' :: sign ++
    digitText e.natAbs

def Layout.magnitudeText (layout : Layout) (x : Digits) : List Char :=
  let e := x.power + (digitText x.digits).length - 1
  match layout.plain with
  | none => layout.plainText x
  | some (low, high) =>
    if low ≤ e ∧ e ≤ high then layout.plainText x else layout.exponentText x

def Layout.text (layout : Layout) (x : Float) : String :=
  if x.isNaN then "NaN"
  else
    let sign := if x.toBits >>> 63 = 1 then ['-'] else []
    if x.isInf then String.ofList (sign ++ ['i', 'n', 'f'])
    else
      let digits := if x == 0 then ⟨0, 0⟩ else shortest x
      String.ofList (sign ++ layout.magnitudeText digits)

/-- Numbers in documents: positional from `0.00001` up to sixteen digits before the point. -/
def documentLayout : Layout := { plain := some (-5, 15), marksWhole := true, marksPlus := true }

/-- Numbers in log lines: as in documents, but a positive exponent takes no sign. -/
def logLayout : Layout := { plain := some (-5, 15), marksWhole := true, marksPlus := false }

/-- Numbers taken over into text: always positional, and whole numbers without a point. -/
def textLayout : Layout := { plain := none, marksWhole := false, marksPlus := false }

end MooseHerd.Decimal
