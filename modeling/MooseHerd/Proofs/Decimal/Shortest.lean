import Mathlib.Algebra.Order.Field.Power
import Mathlib.Data.Rat.Cast.Order
import Mathlib.Tactic.Linarith
import Mathlib.Tactic.NormNum
import Mathlib.Tactic.Positivity
import Mathlib.Tactic.Ring
import MooseHerd.Decimal.Shortest

/-! # The digits of a double

The digits that are chosen for a finite double stand for a number of its interval, so for one that
is at most half a unit of the last place above it. -/

namespace MooseHerd.Decimal

open Float.Model UnpackedFloat

/-! ## Magnitudes -/

theorem toNat_fraction (bits : UInt64) :
    (bits &&& 0x000fffffffffffff).toNat = bits.toNat % 2 ^ 52 := by
  rw [UInt64.toNat_and]
  exact Nat.and_two_pow_sub_one_eq_mod bits.toNat 52

theorem toNat_biased (bits : UInt64) :
    ((bits >>> 52) &&& 0x7ff).toNat = bits.toNat / 2 ^ 52 % 2 ^ 11 := by
  rw [UInt64.toNat_and, UInt64.toNat_shiftRight]
  exact (Nat.and_two_pow_sub_one_eq_mod _ 11).trans (by rw [Nat.shiftRight_eq_div_pow]; rfl)

theorem toNat_unpackMantissa (bits : UInt64) :
    (@unpackMantissa Format.binary64 bits.toBitVec).toNat = bits.toNat % 2 ^ 52 := by
  simp [unpackMantissa]

theorem toNat_unpackExponent (bits : UInt64) :
    (@unpackExponent Format.binary64 bits.toBitVec).toNat = bits.toNat / 2 ^ 52 % 2 ^ 11 := by
  simp [unpackExponent, Nat.shiftRight_eq_div_pow]

theorem biased_lt_of_isFinite {x : Float} (h : x.isFinite = true) :
    x.toBits.toNat / 2 ^ 52 % 2 ^ 11 < 2047 := by
  by_contra hlarge
  have hones : @unpackExponent Format.binary64 x.toBits.toBitVec = -1#11 := by
    apply BitVec.eq_of_toNat_eq
    rw [toNat_unpackExponent]
    exact Nat.le_antisymm (Nat.le_of_lt_succ (Nat.mod_lt _ (by decide))) (Nat.not_lt.mp hlarge)
  have hunpack : (UnpackedFloat.unpack Format.binary64 x.toBits.toBitVec).isFinite = false := by
    unfold UnpackedFloat.unpack
    dsimp only
    rw [if_pos hones]
    split <;> rfl
  exact absurd h (by rw [show x.isFinite = false from hunpack]; decide)

theorem bits_ne_zero_of_ne_zero {x : Float} (h : (x == 0) = false)
    (hbiased : x.toBits.toNat / 2 ^ 52 % 2 ^ 11 = 0) : x.toBits.toNat % 2 ^ 52 ≠ 0 := by
  intro hfraction
  have hexponent : @unpackExponent Format.binary64 x.toBits.toBitVec = 0#11 := by
    apply BitVec.eq_of_toNat_eq
    rw [toNat_unpackExponent]
    exact hbiased
  have hmantissa : @unpackMantissa Format.binary64 x.toBits.toBitVec = 0#52 := by
    apply BitVec.eq_of_toNat_eq
    rw [toNat_unpackMantissa]
    exact hfraction
  have hunpack : ∃ s, x.toModel.unpack = .zero s := by
    rw [show x.toModel.unpack = UnpackedFloat.unpack Format.binary64 x.toBits.toBitVec from rfl]
    unfold UnpackedFloat.unpack
    dsimp only
    rw [if_neg (by rw [hexponent]; decide), if_pos hexponent, dif_pos hmantissa]
    exact ⟨_, rfl⟩
  obtain ⟨s, hs⟩ := hunpack
  have heq : (x == 0) = true := by
    change UnpackedFloat.beq x.toModel.unpack (0 : Float).toModel.unpack = true
    rw [hs, show (0 : Float).toModel.unpack = .zero .positive by rfl]
    rfl
  rw [heq] at h
  cases h

/-- A finite double that is not zero has a mantissa of at most 53 bits. -/
theorem bounds_ofBits {x : Float} (hfinite : x.isFinite = true) (hzero : (x == 0) = false) :
    0 < (Binary.ofBits x.toBits).mantissa ∧ (Binary.ofBits x.toBits).mantissa < 2 ^ 53 ∧
      (Binary.ofBits x.toBits).exponent ≤ 971 := by
  have hbiased := biased_lt_of_isFinite hfinite
  have hbits := bits_ne_zero_of_ne_zero hzero
  have hfraction := Nat.mod_lt x.toBits.toNat (Nat.two_pow_pos 52)
  simp only [Binary.ofBits, toNat_fraction, toNat_biased]
  split
  · rename_i h
    have := hbits h
    dsimp only
    omega
  · simp only [hiddenBit]
    omega

/-! ## Digits -/

/-- The number that digits stand for. -/
def Digits.value (x : Digits) : ℚ := x.digits * 10 ^ x.power

theorem Digits.trimWithin_spec (fuel : Nat) (x : Digits) :
    (x.trimWithin fuel).value = x.value ∧ ((x.trimWithin fuel).digits = 0 ↔ x.digits = 0) := by
  induction fuel generalizing x with
  | zero => exact ⟨rfl, Iff.rfl⟩
  | succ fuel ih =>
    rw [trimWithin]
    split
    · rename_i h
      obtain ⟨hvalue, hzero⟩ := ih ⟨x.digits / 10, x.power + 1⟩
      refine ⟨hvalue.trans ?_, hzero.trans (by dsimp only; omega)⟩
      have hdigits : (x.digits : ℚ) = (x.digits / 10 : Nat) * 10 := by
        exact_mod_cast (Nat.div_mul_cancel (Nat.dvd_of_mod_eq_zero h.2)).symm
      rw [value, value, hdigits, zpow_add₀ (by norm_num), zpow_one]
      ring
    · exact ⟨rfl, Iff.rfl⟩

/-- The number halfway to the double above. -/
def Binary.upperEnd (b : Binary) : ℚ := (b.mantissa + 1 / 2) * 2 ^ b.exponent

theorem natPow_toNat (a : Nat) (ha : a ≠ 0) (n : Int) :
    ((Nat.pow a n.toNat : Nat) : ℚ) = (Nat.pow a (-n).toNat : Nat) * (a : ℚ) ^ n := by
  obtain ⟨k, rfl | rfl⟩ := n.eq_nat_or_neg
  · simp
  · have ha' : (a : ℚ) ≠ 0 := by exact_mod_cast ha
    simp [ha']

theorem Binary.scale_spec (b : Binary) (k : Int) :
    0 < (b.scale k).1 ∧ 0 < (b.scale k).2 ∧
      ((b.scale k).1 : ℚ) * 10 ^ k = (b.scale k).2 * 2 ^ (b.exponent - 2) := by
  refine ⟨Nat.mul_pos (Nat.pow_pos (by decide)) (Nat.pow_pos (by decide)),
    Nat.mul_pos (Nat.pow_pos (by decide)) (Nat.pow_pos (by decide)), ?_⟩
  simp only [scale, Nat.cast_mul]
  rw [natPow_toNat 2 (by decide) (b.exponent - 2), natPow_toNat 10 (by decide) k]
  push_cast
  ring

variable {b : Binary} {k : Int} {d : Nat}

theorem Binary.owns_spec (h : b.owns k d = true) :
    (4 * b.mantissa - if b.narrow then 1 else 2) * (b.scale k).1 ≤ d * (b.scale k).2 ∧
      d * (b.scale k).2 ≤ (4 * b.mantissa + 2) * (b.scale k).1 := by
  unfold owns at h
  dsimp only at h
  split at h
  · simpa using h
  · simp only [Bool.and_eq_true, decide_eq_true_eq] at h
    exact ⟨h.1.le, h.2.le⟩

theorem Binary.value_le_of_owns (h : b.owns k d = true) :
    (Digits.mk d k).value ≤ b.upperEnd := by
  obtain ⟨-, hden, hscale⟩ := b.scale_spec k
  have hhigh : (d : ℚ) * (b.scale k).2 ≤ (4 * b.mantissa + 2) * (b.scale k).1 := by
    exact_mod_cast (Binary.owns_spec h).2
  have hden' : (0 : ℚ) < (b.scale k).2 := by exact_mod_cast hden
  have hpow : (0 : ℚ) < 10 ^ k := zpow_pos (by norm_num) k
  refine le_of_mul_le_mul_right ?_ hden'
  calc d * (10 : ℚ) ^ k * (b.scale k).2 = d * (b.scale k).2 * 10 ^ k := by ring
    _ ≤ (4 * b.mantissa + 2) * (b.scale k).1 * 10 ^ k := mul_le_mul_of_nonneg_right hhigh hpow.le
    _ = (4 * b.mantissa + 2) * ((b.scale k).2 * 2 ^ (b.exponent - 2)) := by rw [mul_assoc, hscale]
    _ = b.upperEnd * (b.scale k).2 := by
      rw [upperEnd, zpow_sub₀ (by norm_num)]
      ring

theorem Binary.ne_zero_of_owns (h : b.owns k d = true) (hm : 0 < b.mantissa) : d ≠ 0 := by
  rintro rfl
  obtain ⟨hnum, -, -⟩ := b.scale_spec k
  have hlow := (Binary.owns_spec h).1
  rw [Nat.zero_mul, Nat.le_zero, Nat.mul_eq_zero] at hlow
  split at hlow <;> omega

theorem Binary.owns_of_onGrid? (h : b.onGrid? k = some d) : b.owns k d = true := by
  unfold onGrid? at h
  dsimp only at h
  split at h
  · rename_i h1 h2
    cases h
    split
    · exact h1
    · exact h2
  · rename_i h1 _
    cases h
    exact h1
  · rename_i _ h2
    cases h
    exact h2
  · cases h

/-- The digits of a double stand for a number that reads back as it, if there are any. -/
theorem Binary.shortestFrom_spec (hm : 0 < b.mantissa) (count fuel : Nat) :
    b.shortestFrom count fuel = ⟨0, 0⟩ ∨
      (b.shortestFrom count fuel).digits ≠ 0 ∧ (b.shortestFrom count fuel).value ≤ b.upperEnd := by
  induction fuel generalizing count with
  | zero => exact .inl rfl
  | succ fuel ih =>
    rw [shortestFrom]
    split
    · rename_i d hd
      have howns := Binary.owns_of_onGrid? hd
      obtain ⟨hvalue, hzero⟩ :=
        Digits.trimWithin_spec (d.log2 + 1) ⟨d, b.magnitude + 1 - count⟩
      right
      exact ⟨fun h => Binary.ne_zero_of_owns howns hm (hzero.mp h),
        hvalue.trans_le (Binary.value_le_of_owns howns)⟩
    · exact ih (count + 1)

end MooseHerd.Decimal
