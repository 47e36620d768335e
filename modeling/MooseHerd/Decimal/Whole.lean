import MooseHerd.Decimal.Shortest

/-! The whole number of 64 bits nearest to a double, by exact arithmetic between natural numbers.
Halves are rounded away from zero. What is out of range becomes the nearest number in range. -/

namespace MooseHerd.Decimal

/-- The natural number nearest to a double without its sign. -/
def Binary.rounded (b : Binary) : Nat :=
  if 0 ≤ b.exponent then b.mantissa * Nat.pow 2 b.exponent.toNat
  else
    let den := Nat.pow 2 (-b.exponent).toNat
    (2 * b.mantissa + den) / (2 * den)

/-- The number without a sign nearest to a double. What is not a number becomes zero, and infinity
the greatest number. -/
def nearestCount (x : Float) : UInt64 :=
  if x.isNaN ∨ x.toBits >>> 63 = 1 then 0
  else (min (Binary.ofBits x.toBits).rounded (UInt64.size - 1)).toUInt64

end MooseHerd.Decimal
