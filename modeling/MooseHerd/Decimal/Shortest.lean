import MooseHerd.Decimal.Nearest

/-! The shortest decimal that reads back as a given double. Numbers between two neighbours read as
the nearer of them, so every double owns an interval; of the decimals in it one with the fewest
digits is taken, and of these the nearest. All comparisons are exact, between natural numbers. -/

namespace MooseHerd.Decimal

/-- A positive finite double as `mantissa * 2 ^ exponent`. `narrow` holds for the least mantissa of
a binade, where the neighbour below is only half as far away as the one above. -/
structure Binary where
  mantissa : Nat
  exponent : Int
  narrow : Bool

/-- The magnitude of a finite non-zero double. -/
def Binary.ofBits (bits : UInt64) : Binary :=
  let fraction := (bits &&& 0x000fffffffffffff).toNat
  let biased := ((bits >>> 52) &&& 0x7ff).toNat
  if biased = 0 then ⟨fraction, -1074, false⟩
  else ⟨hiddenBit + fraction, biased - 1075, fraction == 0 && biased > 1⟩

/-- Digits `d` and a power `k` that stand for `d * 10 ^ k`. -/
structure Digits where
  digits : Nat
  power : Int

/-- The factor by which multiples of a quarter of `2 ^ exponent` turn into multiples of `10 ^ k`, as
numerator and denominator. -/
def Binary.scale (b : Binary) (k : Int) : Nat × Nat :=
  let e := b.exponent - 2
  (Nat.pow 2 e.toNat * Nat.pow 10 (-k).toNat, Nat.pow 2 (-e).toNat * Nat.pow 10 k.toNat)

/-- Whether `d * 10 ^ k` reads back as the double. The ends of the interval do if the mantissa is
even, since a tie goes to the even neighbour. -/
def Binary.owns (b : Binary) (k : Int) (d : Nat) : Bool :=
  let (num, den) := b.scale k
  let low := (4 * b.mantissa - if b.narrow then 1 else 2) * num
  let high := (4 * b.mantissa + 2) * num
  let x := d * den
  if b.mantissa % 2 = 0 then low ≤ x && x ≤ high else low < x && x < high

/-- The multiple of `10 ^ k` that reads back, if one of the two next to the double does: the nearer
if both do, and the even one if both are equally near. -/
def Binary.onGrid? (b : Binary) (k : Int) : Option Nat :=
  let (num, den) := b.scale k
  let value := 4 * b.mantissa * num
  let d := value / den
  match b.owns k d, b.owns k (d + 1) with
  | true, true =>
    let above := 2 * (value % den)
    some (if above < den || (above == den && d % 2 == 0) then d else d + 1)
  | true, false => some d
  | false, true => some (d + 1)
  | false, false => none

def Binary.reaches (b : Binary) (k : Int) : Bool :=
  let (num, den) := b.scale k
  den ≤ 4 * b.mantissa * num

/-- The greatest power of ten that the double reaches, looked for in so many steps upwards. -/
def Binary.climb (b : Binary) : Nat → Int → Int
  | 0, k => k
  | steps + 1, k => if b.reaches (k + 1) then b.climb steps (k + 1) else k

/-- The power of ten of the leading digit. Less than one digit lies between it and the estimate from
the number of bits, a bit being 0.30103 digits. -/
def Binary.magnitude (b : Binary) : Int :=
  b.climb 3 ((b.mantissa.log2 + b.exponent) * 30103 / 100000 - 1)

def Digits.trimWithin : Nat → Digits → Digits
  | 0, x => x
  | fuel + 1, x =>
    if x.digits ≠ 0 ∧ x.digits % 10 = 0 then trimWithin fuel ⟨x.digits / 10, x.power + 1⟩ else x

def Digits.trim (x : Digits) : Digits := trimWithin (x.digits.log2 + 1) x

/-- The shortest decimal of at least `count` digits; seventeen always suffice. -/
def Binary.shortestFrom (b : Binary) (count : Nat) : Nat → Digits
  | 0 => ⟨0, 0⟩
  | more + 1 =>
    let k := b.magnitude + 1 - count
    match b.onGrid? k with
    | some d => Digits.trim ⟨d, k⟩
    | none => b.shortestFrom (count + 1) more

/-- The shortest decimal that reads back as a finite non-zero double, without its sign. -/
def shortest (x : Float) : Digits := (Binary.ofBits x.toBits).shortestFrom 1 17

end MooseHerd.Decimal
