import Mathlib.Algebra.Order.Field.Power
import Mathlib.Data.Rat.Cast.Order
import Mathlib.Tactic.GCongr
import Mathlib.Tactic.Linarith
import Mathlib.Tactic.NormNum
import Mathlib.Tactic.Positivity
import Mathlib.Tactic.Ring
import MooseHerd.Json.Reader

/-! # Doubles from a significand and a power of ten

A reader multiplies the double nearest to the significand by the one nearest to the power. Each of
the three roundings adds at most one unit in the last place, so the product is finite for every
number that is not within a few such units of the end of the range. -/

namespace MooseHerd.Json

open Float.Model UnpackedFloat

/-- A positive double of the usual kind, with its mantissa of 53 bits, that is at most `limit`. -/
def IsNormalUpTo (limit : ℚ) (x : UnpackedFloat) : Prop :=
  ∃ m e h, x = .finite .positive m e h ∧ 2 ^ 52 ≤ m ∧ m < 2 ^ 53 ∧ -52 ≤ e ∧
    (m : ℚ) * 2 ^ e ≤ limit

/-! ## Rounding -/

theorem mantissa_shiftRight (em : ExtendedMantissa) (k : Nat) :
    (em >>> k).mantissa = em.mantissa / 2 ^ k := by
  induction k with
  | zero => exact (Nat.div_one _).symm
  | succ k ih =>
    change (em >>> k).mantissa / 2 = _
    rw [ih, Nat.div_div_eq_div_mul, Nat.pow_succ]

theorem roundedMantissa_bounds (em : ExtendedMantissa) :
    em.mantissa ≤ em.roundedMantissa ∧ em.roundedMantissa ≤ em.mantissa + 1 := by
  obtain ⟨m, r, s⟩ := em
  cases r <;> cases s <;>
    simp only [ExtendedMantissa.roundedMantissa, ExtendedMantissa.accuracy,
      Accuracy.roundToNearestEven] <;>
    omega

theorem targetExponent_eq (m : Nat) (e : Int) :
    Format.binary64.targetExponent (totalExponent m e) = max ((m.log2 : Int) + e - 52) (-1074) := by
  have hbits : Format.binary64.mantissaBits = 53 := rfl
  simp only [Format.targetExponent, totalExponent, Format.minExponent, hbits]
  omega

theorem shiftToTargetExponent_eq {m k : Nat} {e : Int} (hk : m.log2 = 52 + k) (he : -52 ≤ e + k) :
    shiftToTargetExponent Format.binary64 m e .exact =
      (ExtendedMantissa.mk m false false >>> k, e + k) := by
  rw [shiftToTargetExponent, targetExponent_eq, shiftToExponent,
    show (max ((m.log2 : Int) + e - 52) (-1074) - e).toNat = k by omega]
  rfl

/-- A quotient that is rounded up is at most one unit in the last of its 53 bits too large. -/
theorem rounded_le {m r k : Nat} (hr : r ≤ m / 2 ^ k + 1) (hm : 2 ^ 52 * 2 ^ k ≤ m) (e : Int) :
    (r : ℚ) * 2 ^ (e + k) ≤ m * 2 ^ e * (1 + 1 / 2 ^ 52) := by
  have hsum : r * 2 ^ k ≤ m + 2 ^ k := by
    calc r * 2 ^ k ≤ (m / 2 ^ k + 1) * 2 ^ k := Nat.mul_le_mul_right _ hr
      _ = m / 2 ^ k * 2 ^ k + 2 ^ k := by ring
      _ ≤ m + 2 ^ k := Nat.add_le_add_right (Nat.div_mul_le_self m _) _
  have hsum' : (r : ℚ) * 2 ^ k ≤ m + 2 ^ k := by exact_mod_cast hsum
  have hm' : (2 : ℚ) ^ 52 * 2 ^ k ≤ m := by exact_mod_cast hm
  have hr' : (r : ℚ) * 2 ^ k ≤ m * (1 + 1 / 2 ^ 52) := by linarith
  have he : (0 : ℚ) < 2 ^ e := zpow_pos (by norm_num) e
  calc (r : ℚ) * 2 ^ (e + k) = r * 2 ^ k * 2 ^ e := by
        rw [zpow_add₀ (by norm_num), zpow_natCast]
        ring
    _ ≤ m * (1 + 1 / 2 ^ 52) * 2 ^ e := mul_le_mul_of_nonneg_right hr' he.le
    _ = m * 2 ^ e * (1 + 1 / 2 ^ 52) := by ring

/-- Rounding to 53 bits adds at most one unit in the last of them. -/
theorem isNormalUpTo_roundWithAccuracy {m : Nat} {e : Int} (hm : 52 ≤ m.log2)
    (he : 0 ≤ (m.log2 : Int) + e) :
    IsNormalUpTo (m * 2 ^ e * (1 + 1 / 2 ^ 52))
      (roundWithAccuracy Format.binary64 .positive m e .exact) := by
  obtain ⟨k, hk⟩ := Nat.exists_eq_add_of_le hm
  have hlow : 2 ^ 52 * 2 ^ k ≤ m := by
    rw [← Nat.pow_add, ← hk]
    refine Nat.log2_self_le ?_
    rintro rfl
    exact absurd hm (by decide)
  have hhigh : m < 2 ^ 53 * 2 ^ k := by
    rw [← Nat.pow_add, show 53 + k = m.log2 + 1 by omega]
    exact Nat.lt_log2_self
  have hek : -52 ≤ e + k := by omega
  rw [roundWithAccuracy, shiftToTargetExponent_eq hk hek]
  dsimp only
  obtain ⟨hrlow, hrhigh⟩ := roundedMantissa_bounds (ExtendedMantissa.mk m false false >>> k)
  rw [mantissa_shiftRight] at hrlow hrhigh
  have hqlow := (Nat.le_div_iff_mul_le (Nat.two_pow_pos k)).mpr hlow
  have hqhigh := (Nat.div_lt_iff_lt_mul (Nat.two_pow_pos k)).mpr hhigh
  have hvalue := rounded_le hrhigh hlow e
  generalize (ExtendedMantissa.mk m false false >>> k).roundedMantissa = r at *
  dsimp only at hrlow hrhigh
  by_cases hr : r < 2 ^ 53
  · have hne : r ≠ 0 := by omega
    have hlog : r.log2 = 52 := (Nat.log2_eq_iff hne).mpr ⟨by omega, hr⟩
    rw [shiftToTargetExponent_eq (k := 0) hlog (by omega)]
    exact ⟨r, e + k + (0 : Nat), Nat.pos_of_ne_zero hne, dif_neg hne, by omega, hr, by omega,
      by simpa using hvalue⟩
  · -- the mantissa has got a bit too many, and its last one is zero
    obtain rfl : r = 2 ^ 53 := by omega
    rw [shiftToTargetExponent_eq (k := 1) Nat.log2_two_pow (by omega)]
    refine ⟨2 ^ 52, e + k + (1 : Nat), by decide, rfl, Nat.le_refl _, by decide, by omega, ?_⟩
    refine le_trans (le_of_eq ?_) hvalue
    rw [zpow_add₀ (by norm_num : (2 : ℚ) ≠ 0) (e + k)]
    push_cast
    ring

/-! ## Packing -/

theorem unpackSign_packComponents {spec : Format} {s : Sign} {e : BitVec spec.exponentBits}
    {m : BitVec spec.mantissaBitsWithoutImplicit} :
    Sign.ofBitVec (unpackSign (packComponents spec s e m)) = s := by
  have hsign : unpackSign (packComponents spec s e m) = s.toBitVec := by
    ext i hi
    obtain rfl : i = 0 := by omega
    unfold unpackSign packComponents
    simp [BitVec.getLsbD_append, BitVec.getElem_append]
  rw [hsign]
  cases s <;> rfl

/-- The exponent of a double of 53 bits is packed with a bias, and the first of its bits is left
out. -/
theorem toBits_pack_finite {s : Sign} {m b : Nat} (h : 0 < m) (hlow : 2 ^ 52 ≤ m)
    (hhigh : m < 2 ^ 53) (hb : b < 2047) :
    (Float.Model.pack (.finite s m (b - 1075) h)).toBits.toBitVec =
      packComponents Format.binary64 s (BitVec.ofNat 11 b) (BitVec.ofNat 52 m) := by
  have hlog : m.log2 = 52 := (Nat.log2_eq_iff (by omega)).mpr ⟨hlow, hhigh⟩
  change UnpackedFloat.pack Format.binary64 (.finite s m (b - 1075) h) = _
  have hbiased : ((b : Int) - 1075 + Format.binary64.exponentBias +
      Format.binary64.mantissaBitsWithoutImplicit).toNat = b := by
    change ((b : Int) - 1075 + (1023 : Nat) + (52 : Nat)).toNat = b
    omega
  unfold UnpackedFloat.pack
  dsimp only
  rw [hbiased, if_neg (by norm_num; omega), if_pos (by rw [hlog]; rfl)]

theorem finite_congr {s : Sign} {m m' : Nat} {e e' : Int} {h : 0 < m} {h' : 0 < m'} (hm : m = m')
    (he : e = e') : UnpackedFloat.finite s m e h = .finite s m' e' h' := by
  subst hm he
  rfl

/-- A double of 53 bits comes out of its packed form as it went in. -/
theorem unpack_pack_finite {s : Sign} {m : Nat} {e : Int} (h : 0 < m) (hlow : 2 ^ 52 ≤ m)
    (hhigh : m < 2 ^ 53) (he : -1074 ≤ e) (he' : e ≤ 971) :
    (Float.Model.pack (.finite s m e h)).unpack = .finite s m e h := by
  obtain ⟨b, rfl⟩ : ∃ b : Nat, e = b - 1075 := ⟨(e + 1075).toNat, by omega⟩
  have hbits := toBits_pack_finite (s := s) h hlow hhigh (b := b) (by omega)
  have hnat : (BitVec.ofNat 11 b).toNat = b := by
    rw [BitVec.toNat_ofNat, Nat.mod_eq_of_lt (by norm_num; omega)]
  have hne : ∀ exponent : BitVec 11, exponent.toNat ≠ b → BitVec.ofNat 11 b ≠ exponent := by
    rintro exponent hexponent rfl
    exact hexponent hnat
  have hne_ones : BitVec.ofNat 11 b ≠ -1#11 := hne _ (show 2047 ≠ b by omega)
  have hne_zero : BitVec.ofNat 11 b ≠ 0#11 := hne _ (show 0 ≠ b by omega)
  have hmantissa : (1#1 ++ BitVec.ofNat 52 m).toNat = m := by
    rw [BitVec.toNat_append, ← Nat.shiftLeft_add_eq_or_of_lt (BitVec.isLt _), BitVec.toNat_ofNat]
    change 1 <<< 52 + m % 2 ^ 52 = m
    omega
  rw [Float.Model.unpack, hbits]
  unfold UnpackedFloat.unpack
  dsimp only
  rw [if_neg (by rw [unpackExponent_packComponents]; exact hne_ones),
    if_neg (by rw [unpackExponent_packComponents]; exact hne_zero), unpackSign_packComponents]
  refine finite_congr ?_ ?_
  · rw [unpackMantissa_packComponents]
    exact hmantissa
  · rw [unpackExponent_packComponents, hnat]
    rfl

/-! ## Conversions and products -/

theorem log2_mul_two_pow {n : Nat} (hn : n ≠ 0) (k : Nat) : (n * 2 ^ k).log2 = n.log2 + k := by
  have hpos : 0 < 2 ^ k := Nat.two_pow_pos k
  rw [Nat.log2_eq_iff (Nat.mul_ne_zero hn hpos.ne'), Nat.add_right_comm, Nat.pow_add,
    Nat.pow_add _ (n.log2 + 1)]
  exact ⟨Nat.mul_le_mul_right _ (Nat.log2_self_le hn),
    Nat.mul_lt_mul_of_pos_right Nat.lt_log2_self hpos⟩

theorem exponent_le {m : Nat} {e : Int} {limit : ℚ} (hlow : 2 ^ 52 ≤ m)
    (hvalue : (m : ℚ) * 2 ^ e ≤ limit) (hlimit : limit < 2 ^ 1024) : e ≤ 971 := by
  by_contra hlarge
  have hm : (2 : ℚ) ^ 52 ≤ m := by exact_mod_cast hlow
  have hpow : (2 : ℚ) ^ 972 ≤ 2 ^ e := by
    rw [← zpow_natCast]
    exact zpow_le_zpow_right₀ (by norm_num) (by omega)
  have hproduct : (2 : ℚ) ^ 1024 ≤ m * 2 ^ e := by
    rw [show 1024 = 52 + 972 from rfl, pow_add]
    exact mul_le_mul hm hpow (by positivity) (by positivity)
  exact absurd (hproduct.trans hvalue) (not_le.mpr hlimit)

theorem IsNormalUpTo.unpack_pack {limit : ℚ} {x : UnpackedFloat} (hx : IsNormalUpTo limit x)
    (hlimit : limit < 2 ^ 1024) : (Float.Model.pack x).unpack = x := by
  obtain ⟨m, e, h, rfl, hlow, hhigh, he, hvalue⟩ := hx
  exact unpack_pack_finite h hlow hhigh (by omega) (exponent_le hlow hvalue hlimit)

theorem IsNormalUpTo.unpack_pack_neg {limit : ℚ} {x : UnpackedFloat} (hx : IsNormalUpTo limit x)
    (hlimit : limit < 2 ^ 1024) : (Float.Model.pack x.neg).unpack = x.neg := by
  obtain ⟨m, e, h, rfl, hlow, hhigh, he, hvalue⟩ := hx
  exact unpack_pack_finite h hlow hhigh (by omega) (exponent_le hlow hvalue hlimit)

theorem IsNormalUpTo.mono {limit limit' : ℚ} {x : UnpackedFloat} (hx : IsNormalUpTo limit x)
    (hle : limit ≤ limit') : IsNormalUpTo limit' x := by
  obtain ⟨m, e, h, hx, hlow, hhigh, he, hvalue⟩ := hx
  exact ⟨m, e, h, hx, hlow, hhigh, he, hvalue.trans hle⟩

theorem IsNormalUpTo.isInf {limit : ℚ} {x : UnpackedFloat} (hx : IsNormalUpTo limit x) :
    x.isInf = false := by
  obtain ⟨m, e, h, rfl, -⟩ := hx
  rfl

theorem IsNormalUpTo.isFinite {limit : ℚ} {x : UnpackedFloat} (hx : IsNormalUpTo limit x) :
    x.isFinite = true ∧ x.neg.isFinite = true := by
  obtain ⟨m, e, h, rfl, -⟩ := hx
  exact ⟨rfl, rfl⟩

theorem isNormalUpTo_ofNat {n : Nat} (hn : n ≠ 0) :
    IsNormalUpTo (n * (1 + 1 / 2 ^ 52)) (UnpackedFloat.ofNat Format.binary64 n) := by
  have hround : UnpackedFloat.ofNat Format.binary64 n =
      UnpackedFloat.round Format.binary64 .positive n 0 := by
    rw [UnpackedFloat.ofNat, UnpackedFloat.ofInt, UnpackedFloat.normalize,
      show compare (n : Int) 0 = .gt from Int.compare_eq_gt.mpr (by omega)]
    rfl
  -- the mantissa gets the bits that it lacks
  obtain ⟨k, hk⟩ : ∃ k : Nat, k = (0 - max ((n.log2 : Int) + 0 - 52) (-1074)).toNat := ⟨_, rfl⟩
  have hlog := log2_mul_two_pow hn k
  rw [hround, UnpackedFloat.round, targetExponent_eq, decreaseExponent, ← hk, Nat.shiftLeft_eq]
  have hnormal := isNormalUpTo_roundWithAccuracy (m := n * 2 ^ k) (e := 0 - k) (by omega) (by omega)
  have hvalue : ((n * 2 ^ k : Nat) : ℚ) * 2 ^ (0 - k : Int) = n := by
    rw [zero_sub, zpow_neg, zpow_natCast, Nat.cast_mul, Nat.cast_pow, Nat.cast_ofNat,
      mul_inv_cancel_right₀ (by positivity)]
  rw [hvalue] at hnormal
  exact hnormal

theorem isNormalUpTo_toFloat {n : Nat} (hn : n ≠ 0) (hsize : n < UInt64.size) :
    IsNormalUpTo (n * (1 + 1 / 2 ^ 52)) n.toUInt64.toFloat.toModel.unpack := by
  have hnormal := isNormalUpTo_ofNat hn
  have hn' : n.toUInt64.toNat = n := Nat.mod_eq_of_lt hsize
  have hmodel : n.toUInt64.toFloat.toModel =
      Float.Model.pack (UnpackedFloat.ofNat Format.binary64 n) := by
    change Float.Model.pack (UnpackedFloat.ofNat Format.binary64 n.toUInt64.toNat) = _
    rw [hn']
  rw [hmodel, hnormal.unpack_pack]
  · exact hnormal
  · have hsize' : (n : ℚ) < 2 ^ 64 := by exact_mod_cast hsize
    calc (n : ℚ) * (1 + 1 / 2 ^ 52) ≤ 2 ^ 64 * 2 :=
          mul_le_mul hsize'.le (by norm_num) (by norm_num) (by norm_num)
      _ < 2 ^ 1024 := by
          rw [← pow_succ]
          exact pow_lt_pow_right₀ (by norm_num) (by norm_num)

theorem powerOfTen_eq (p : Nat) :
    powerOfTen p = Float.ofModel (Float.Model.ofScientific 1 p) := by
  -- small powers come from a table
  by_cases hp : p ≤ 22
  · have htable : ∀ p ≤ 22, powerOfTen p = Float.ofModel (Float.Model.ofScientific 1 p) := by
      decide +kernel
    exact htable p hp
  · rw [powerOfTen, Float.ofScientific, dif_neg (fun h => hp h.2)]
    rfl

/-- A number times a power of ten, rounded once. -/
theorem isNormalUpTo_ofScientific {n p : Nat} (hn : n ≠ 0) (hp : p ≤ 2048) :
    IsNormalUpTo (n * 10 ^ p * (1 + 1 / 2 ^ 52))
      (UnpackedFloat.ofScientific Format.binary64 n p) := by
  have hpow : 0 < 10 ^ p := Nat.pow_pos (by decide)
  have hround : UnpackedFloat.ofScientific Format.binary64 n p =
      roundWithAccuracy Format.binary64 .positive (n * 10 ^ p * 2 ^ 53) (-53) .exact := by
    rw [UnpackedFloat.ofScientific, dif_neg hn, if_neg (by norm_num; omega),
      if_neg (by norm_num; omega), if_pos (by omega), Nat.mul_right_comm, ← Nat.shiftLeft_eq]
    rfl
  have hlog := log2_mul_two_pow (Nat.mul_ne_zero hn hpow.ne') 53
  have hnormal := isNormalUpTo_roundWithAccuracy (m := n * 10 ^ p * 2 ^ 53) (e := -53)
    (by omega) (by omega)
  have hvalue : ((n * 10 ^ p * 2 ^ 53 : Nat) : ℚ) * 2 ^ (-53 : Int) = n * 10 ^ p := by
    push_cast
    rw [zpow_neg]
    exact mul_inv_cancel_right₀ (by positivity) _
  rw [hvalue, ← hround] at hnormal
  exact hnormal

theorem isNormalUpTo_powerOfTen {p : Nat} (hp : p ≤ 308) :
    IsNormalUpTo (10 ^ p * (1 + 1 / 2 ^ 52)) (powerOfTen p).toModel.unpack := by
  have hnormal := isNormalUpTo_ofScientific (n := 1) (p := p) (by decide) (by omega)
  rw [Nat.cast_one, one_mul] at hnormal
  rw [powerOfTen_eq]
  change IsNormalUpTo _ (Float.Model.pack (UnpackedFloat.ofScientific Format.binary64 1 p)).unpack
  rw [hnormal.unpack_pack]
  · exact hnormal
  · have hpow : (10 : ℚ) ^ p ≤ 10 ^ 308 := pow_le_pow_right₀ (by norm_num) hp
    have hlast : 10 ^ 308 * 3 < 2 ^ 1024 * 2 := by decide +kernel
    have hlast' : (10 : ℚ) ^ 308 * 3 < 2 ^ 1024 * 2 := by exact_mod_cast hlast
    calc (10 : ℚ) ^ p * (1 + 1 / 2 ^ 52) ≤ 10 ^ 308 * (3 / 2) :=
          mul_le_mul hpow (by norm_num) (by norm_num) (by positivity)
      _ = 10 ^ 308 * 3 / 2 := (mul_div_assoc _ _ _).symm
      _ < 2 ^ 1024 := (div_lt_iff₀ (by norm_num)).mpr hlast'

/-- A product is a double of the usual kind if the bounds of its factors leave room for one more
rounding. -/
theorem isNormalUpTo_mul {x y : Float} {a b : ℚ} (hx : IsNormalUpTo a x.toModel.unpack)
    (hy : IsNormalUpTo b y.toModel.unpack) (hab : a * b * (1 + 1 / 2 ^ 52) < 2 ^ 1024) :
    IsNormalUpTo (a * b * (1 + 1 / 2 ^ 52)) (x * y).toModel.unpack := by
  obtain ⟨m, e, h, hxm, hlow, hhigh, he, hvalue⟩ := hx
  obtain ⟨m', e', h', hym, hlow', hhigh', he', hvalue'⟩ := hy
  have hmul : (x * y).toModel = Float.Model.pack
      (roundWithAccuracy Format.binary64 .positive (m * m') (e + e') .exact) := by
    change Float.Model.pack
      (UnpackedFloat.mul Format.binary64 x.toModel.unpack y.toModel.unpack) = _
    rw [hxm, hym]
    rfl
  have hlog : 104 ≤ (m * m').log2 := by
    rw [Nat.le_log2 (Nat.mul_ne_zero h.ne' h'.ne')]
    calc 2 ^ 104 = 2 ^ 52 * 2 ^ 52 := by norm_num
      _ ≤ m * m' := Nat.mul_le_mul hlow hlow'
  have hnormal := isNormalUpTo_roundWithAccuracy (m := m * m') (e := e + e') (by omega) (by omega)
  have hproduct : ((m * m' : Nat) : ℚ) * 2 ^ (e + e') ≤ a * b := by
    calc ((m * m' : Nat) : ℚ) * 2 ^ (e + e') = (m * 2 ^ e) * (m' * 2 ^ e') := by
          rw [zpow_add₀ (by norm_num), Nat.cast_mul]
          ring
      _ ≤ a * b := by
          refine mul_le_mul hvalue hvalue' ?_ (le_trans ?_ hvalue)
          all_goals exact mul_nonneg (Nat.cast_nonneg _) (zpow_nonneg (by norm_num) _)
  have hbounded := hnormal.mono (show _ ≤ a * b * (1 + 1 / 2 ^ 52) by gcongr)
  rw [hmul, hbounded.unpack_pack hab]
  exact hbounded

/-- A number leaves the range of doubles only if it is close to the end of it. -/
theorem scaled?_isSome {n : Nat} {power : Int} (hn : n < UInt64.size)
    (h : (n : ℚ) * 10 ^ power ≤ 2 ^ 1024 - 2 ^ 974) : (scaled? n power).isSome = true := by
  have hsum : (2 : ℚ) ^ 1024 = 2 ^ 974 * 2 ^ 50 := by rw [← pow_add]
  unfold scaled?
  dsimp only
  split
  · rfl
  · rename_i hpower
    obtain ⟨p, rfl⟩ := Int.eq_ofNat_of_zero_le (Int.not_lt.mp hpower)
    split
    · rfl
    · rename_i hzero
      have hne : n ≠ 0 := by
        rintro rfl
        exact hzero (by decide +kernel)
      rw [zpow_natCast] at h
      have hp : p ≤ 308 := by
        by_contra hlarge
        have hone : (1 : ℚ) ≤ n := by exact_mod_cast Nat.one_le_iff_ne_zero.mpr hne
        have hlast : 2 ^ 1024 ≤ 10 ^ 309 := by decide +kernel
        have hpow : (2 : ℚ) ^ 1024 ≤ n * 10 ^ p := by
          calc (2 : ℚ) ^ 1024 ≤ 10 ^ 309 := by exact_mod_cast hlast
            _ ≤ 10 ^ p := pow_le_pow_right₀ (by norm_num) (by omega)
            _ ≤ n * 10 ^ p := le_mul_of_one_le_left (by positivity) hone
        exact absurd (hpow.trans h) (not_le.mpr (sub_lt_self _ (by positivity)))
      have hfinite : (n.toUInt64.toFloat * powerOfTen p).isInf = false := by
        refine (isNormalUpTo_mul (isNormalUpTo_toFloat hne hn) (isNormalUpTo_powerOfTen hp)
          ?_).isInf
        calc (n : ℚ) * (1 + 1 / 2 ^ 52) * (10 ^ p * (1 + 1 / 2 ^ 52)) * (1 + 1 / 2 ^ 52)
            = n * 10 ^ p * (1 + 1 / 2 ^ 52) ^ 3 := by ring
          _ ≤ (2 ^ 1024 - 2 ^ 974) * (1 + 1 / 2 ^ 52) ^ 3 := by gcongr
          _ = 2 ^ 974 * ((2 ^ 50 - 1) * (1 + 1 / 2 ^ 52) ^ 3) := by
            rw [hsum, ← mul_sub_one, mul_assoc]
          _ < 2 ^ 974 * 2 ^ 50 := by
            refine mul_lt_mul_of_pos_left ?_ (by positivity)
            norm_num
          _ = 2 ^ 1024 := hsum.symm
      rw [if_pos (by omega), Int.toNat_natCast, hfinite]
      rfl

/-! ## Whole numbers as doubles -/

/-- Small numbers are converted and multiplied with one, large ones rounded in one step. -/
theorem isNormalUpTo_floatOfNat {n : Nat} (hn : n ≠ 0) (hsize : n < UInt64.size) :
    ∃ limit < 2 ^ 1024, IsNormalUpTo limit (Float.ofNat n).toModel.unpack := by
  have hcast : (n : ℚ) ≤ 2 ^ 64 := by exact_mod_cast Nat.le_of_lt hsize
  have hroom : (2 : ℚ) ^ 64 * 8 < 2 ^ 1024 := by
    rw [show (8 : ℚ) = 2 ^ 3 by norm_num, ← pow_add]
    exact pow_lt_pow_right₀ (by norm_num) (by norm_num)
  have hlimit : ∀ a : ℚ, 0 < a → a ≤ 8 → (n : ℚ) * a < 2 ^ 1024 := by
    intro a ha hle
    exact lt_of_le_of_lt (mul_le_mul hcast hle ha.le (by positivity)) hroom
  by_cases hsmall : n < 2 ^ 53
  · have hproduct : Float.ofNat n = n.toUInt64.toFloat * powerOfTen 0 := by
      have hone : Float.exactlyRepresentablePowersOfTen[0] = powerOfTen 0 := by decide +kernel
      rw [← hone]
      exact dif_pos ⟨hsmall, Nat.zero_le 22⟩
    rw [hproduct]
    refine ⟨_, ?_, isNormalUpTo_mul (isNormalUpTo_toFloat hn hsize)
      (isNormalUpTo_powerOfTen (Nat.zero_le 308)) ?_⟩
    all_goals
      rw [mul_assoc, mul_assoc]
      exact hlimit _ (by positivity) (by norm_num)
  · have hmodel : (Float.ofNat n).toModel =
        Float.Model.pack (UnpackedFloat.ofScientific Format.binary64 n (0 : Nat)) :=
      congrArg Float.toModel (dif_neg fun h => hsmall h.1)
    have hnormal := isNormalUpTo_ofScientific hn (Nat.zero_le 2048)
    have hbound : (n : ℚ) * 10 ^ 0 * (1 + 1 / 2 ^ 52) < 2 ^ 1024 := by
      rw [mul_assoc]
      exact hlimit _ (by positivity) (by norm_num)
    refine ⟨_, hbound, ?_⟩
    rw [hmodel, hnormal.unpack_pack hbound]
    exact hnormal

theorem isFinite_floatOfInt {n : Int} (hlow : -(2 ^ 64) < n) (hhigh : n < 2 ^ 64) :
    (Float.ofInt n).isFinite = true := by
  cases n with
  | ofNat n =>
    rcases Nat.eq_zero_or_pos n with rfl | hpos
    · decide +kernel
    · obtain ⟨_, -, hnormal⟩ := isNormalUpTo_floatOfNat hpos.ne'
        (show n < 2 ^ 64 by rw [Int.ofNat_eq_natCast] at hhigh; omega)
      exact hnormal.isFinite.1
  | negSucc n =>
    obtain ⟨limit, hlimit, hnormal⟩ := isNormalUpTo_floatOfNat n.succ_ne_zero
      (show n.succ < 2 ^ 64 by omega)
    change (Float.Model.pack (Float.ofNat n.succ).toModel.unpack.neg).unpack.isFinite = true
    rw [hnormal.unpack_pack_neg hlimit]
    exact hnormal.isFinite.2

end MooseHerd.Json
