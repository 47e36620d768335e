/-! The double nearest to a fraction, by exact arithmetic between natural numbers. A tie goes to
the even neighbour. -/

namespace MooseHerd.Decimal

/-- The least mantissa of 53 bits. -/
def hiddenBit : Nat := 4503599627370496

/-- The exponent of the last bit that a double near `num / den` has: such that the quotient by
`2 ^ e` has 53 bits, but not below the last bit of the least doubles. -/
def lastBit (num den : Nat) : Int :=
  let guess : Int := (num.log2 : Int) - (den.log2 : Int) - 52
  let fits := num * Nat.pow 2 (-guess).toNat < hiddenBit * (den * Nat.pow 2 guess.toNat)
  max (if fits then guess - 1 else guess) (-1074)

def roundHalfEven (num den : Nat) : Nat :=
  let q := num / den
  let twice := 2 * (num % den)
  if twice < den ∨ twice = den ∧ q % 2 = 0 then q else q + 1

/-- The greatest exponent of a last bit. -/
def lastBitLimit : Int := 971

def infinityBits : UInt64 := 0x7ff0000000000000

/-- The bits of the double nearest to `num / den`. A mantissa that rounds up to a power of two moves
into the exponent by itself. -/
def nearestBits (num den : Nat) : UInt64 :=
  if num = 0 then 0
  else
    let e := lastBit num den
    let mantissa := roundHalfEven (num * Nat.pow 2 (-e).toNat) (den * Nat.pow 2 e.toNat)
    if e > lastBitLimit then infinityBits
    else ((e + 1074).toNat * hiddenBit + mantissa).toUInt64

/-- The double nearest to `significand * 10 ^ power`. Powers far beyond the range of doubles are not
computed. -/
def nearest (significand : Nat) (power : Int) : Float :=
  let digits : Int := (Nat.toDigits 10 significand).length
  if significand = 0 ∨ power + digits < -330 then 0
  else if power + digits > 330 then Float.ofBits infinityBits
  else Float.ofBits (nearestBits (significand * Nat.pow 10 power.toNat) (Nat.pow 10 (-power).toNat))

end MooseHerd.Decimal
