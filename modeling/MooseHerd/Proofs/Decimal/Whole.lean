import MooseHerd.Decimal.Whole
import MooseHerd.Proofs.Decimal.Digits
import MooseHerd.Proofs.Decimal.Shortest
import MooseHerd.Proofs.Json.Scaled

/-! # Whole numbers that pass through a double

A double has 53 bits, so of a whole number of 64 bits it keeps a multiple of 2048 at least, and one
that is rounded up may have left the range of 64 bits. -/

namespace MooseHerd.Decimal

open Float.Model UnpackedFloat

/-! ## Bits of doubles -/

theorem toNat_packComponents {b m : Nat} (hb : b < 2 ^ 11) :
    (packComponents Format.binary64 .positive (BitVec.ofNat 11 b) (BitVec.ofNat 52 m)).toNat =
      b * 2 ^ 52 + m % 2 ^ 52 := by
  change (0#1 ++ BitVec.ofNat 11 b ++ BitVec.ofNat 52 m).toNat = _
  rw [BitVec.toNat_append, ← Nat.shiftLeft_add_eq_or_of_lt (BitVec.isLt _), BitVec.toNat_append,
    ← Nat.shiftLeft_add_eq_or_of_lt (BitVec.isLt _), BitVec.toNat_ofNat, BitVec.toNat_ofNat,
    Nat.mod_eq_of_lt hb, Nat.shiftLeft_eq]
  simp

section

variable {bits : UInt64} (hlow : 2 ^ 52 ≤ bits.toNat) (hhigh : bits.toNat < 2047 * 2 ^ 52)

include hlow hhigh

/-- The bits of a positive double of the usual kind are those of its parts. -/
theorem toBits_pack_of_bits (h : 0 < 2 ^ 52 + bits.toNat % 2 ^ 52) :
    (Float.Model.pack (.finite .positive (2 ^ 52 + bits.toNat % 2 ^ 52)
      ((bits.toNat / 2 ^ 52 : Nat) - 1075) h)).toBits = bits := by
  refine UInt64.toBitVec_inj.mp (BitVec.eq_of_toNat_eq ?_)
  rw [Json.toBits_pack_finite h (by omega) (by omega) (by omega),
    toNat_packComponents (by omega)]
  show _ = bits.toNat
  omega

theorem unpack_pack_of_bits (h : 0 < 2 ^ 52 + bits.toNat % 2 ^ 52) :
    (Float.Model.pack (.finite .positive (2 ^ 52 + bits.toNat % 2 ^ 52)
      ((bits.toNat / 2 ^ 52 : Nat) - 1075) h)).unpack =
      .finite .positive (2 ^ 52 + bits.toNat % 2 ^ 52) ((bits.toNat / 2 ^ 52 : Nat) - 1075) h :=
  Json.unpack_pack_finite h (by omega) (by omega) (by omega) (by omega)

theorem toModel_ofBits (h : 0 < 2 ^ 52 + bits.toNat % 2 ^ 52) :
    (Float.ofBits bits).toModel = Float.Model.pack (.finite .positive
      (2 ^ 52 + bits.toNat % 2 ^ 52) ((bits.toNat / 2 ^ 52 : Nat) - 1075) h) := by
  have hunpack := unpack_pack_of_bits hlow hhigh h
  rw [Float.Model.unpack, toBits_pack_of_bits hlow hhigh h] at hunpack
  exact congrArg Float.Model.pack hunpack

/-- Doubles of the usual kind come out of their bits as they went in. -/
theorem toBits_ofBits : (Float.ofBits bits).toBits = bits ∧ (Float.ofBits bits).isNaN = false := by
  have h : 0 < 2 ^ 52 + bits.toNat % 2 ^ 52 := by omega
  have hmodel := toModel_ofBits hlow hhigh h
  constructor
  · exact (congrArg Float.Model.toBits hmodel).trans (toBits_pack_of_bits hlow hhigh h)
  · change (Float.ofBits bits).toModel.unpack.isNaN = false
    rw [hmodel, unpack_pack_of_bits hlow hhigh h]
    rfl

end

/-! ## Whole numbers as doubles -/

theorem Binary.rounded_natCast (m k : Nat) (narrow : Bool) :
    (Binary.mk m k narrow).rounded = m * 2 ^ k :=
  if_pos (Int.natCast_nonneg k)

/-- What is left of a natural number with 64 bits, the first of them one, after it was a double. -/
def throughDouble (n : Nat) : Nat := min (2048 * roundHalfEven n 2048) (UInt64.size - 1)

section

variable {n : Nat} (hlow : int64Size ≤ n) (hhigh : n < UInt64.size)

include hlow hhigh

theorem roundHalfEven_bounds : 2 ^ 52 ≤ roundHalfEven n 2048 ∧ roundHalfEven n 2048 ≤ 2 ^ 53 := by
  simp only [int64Size, UInt64.size] at hlow hhigh
  unfold roundHalfEven
  dsimp only
  split <;> omega

theorem toNat_nearestBits : (nearestBits n 1).toNat = 1085 * 2 ^ 52 + roundHalfEven n 2048 := by
  have hbounds := roundHalfEven_bounds hlow hhigh
  simp only [int64Size, UInt64.size] at hlow hhigh
  have hlog : n.log2 = 63 := (Nat.log2_eq_iff (by omega)).mpr ⟨by omega, by omega⟩
  have hlast : lastBit n 1 = 11 := by
    have hfits : ¬ n * 1 < hiddenBit * (1 * 2048) := by
      rw [hiddenBit]
      omega
    rw [lastBit, hlog]
    exact (congrArg (max · _) (if_neg hfits)).trans (by decide)
  rw [nearestBits, if_neg (by omega), hlast]
  dsimp only
  rw [if_neg (by decide)]
  change ((1085 * 2 ^ 52 + roundHalfEven (n * 1) 2048).toUInt64).toNat = _
  rw [Nat.mul_one]
  exact Nat.mod_eq_of_lt (by omega)

/-- A number of 64 bits whose first bit is one comes back from its double as a multiple of 2048, or
as the greatest number if that multiple is out of range. -/
theorem nearestCount_nearest :
    nearestCount (Float.ofBits (nearestBits n 1)) = (throughDouble n).toUInt64 := by
  obtain ⟨hleast, hgreatest⟩ := roundHalfEven_bounds hlow hhigh
  have hbits := toNat_nearestBits hlow hhigh
  obtain ⟨hsame, hnumber⟩ := toBits_ofBits
    (show 2 ^ 52 ≤ (nearestBits n 1).toNat by omega)
    (show (nearestBits n 1).toNat < 2047 * 2 ^ 52 by omega)
  have hsign : nearestBits n 1 >>> 63 ≠ 1 := by
    intro h
    have hbit := congrArg UInt64.toNat h
    rw [UInt64.toNat_shiftRight, hbits, Nat.shiftRight_eq_div_pow] at hbit
    change (1085 * 2 ^ 52 + roundHalfEven n 2048) / 2 ^ 63 = 1 at hbit
    omega
  have hbinary : (Binary.ofBits (nearestBits n 1)).rounded = 2048 * roundHalfEven n 2048 := by
    simp only [Binary.ofBits, toNat_fraction, toNat_biased, hbits]
    -- a mantissa with a bit too many has become the next exponent
    rcases Nat.lt_or_eq_of_le hgreatest with h | h
    · rw [show (1085 * 2 ^ 52 + roundHalfEven n 2048) / 2 ^ 52 % 2 ^ 11 = 1086 by omega,
        show (1085 * 2 ^ 52 + roundHalfEven n 2048) % 2 ^ 52 =
          roundHalfEven n 2048 - 2 ^ 52 by omega]
      rw [if_neg (by decide), show ((1086 : Nat) : Int) - 1075 = (11 : Nat) by decide,
        Binary.rounded_natCast, hiddenBit]
      omega
    · rw [h]
      decide +kernel
  rw [nearestCount, hsame, hnumber, if_neg (by simpa using hsign), hbinary]
  rfl

theorem throughDouble_eq_self_iff : throughDouble n = n ↔ 2048 ∣ n ∨ n = UInt64.size - 1 := by
  simp only [throughDouble, roundHalfEven, int64Size, UInt64.size] at *
  split <;> omega

end

/-! ## Digits of whole numbers -/

theorem takeSign_toDigits (n : Nat) :
    takeSign (Nat.toDigits 10 n) = (false, Nat.toDigits 10 n) := by
  unfold takeSign
  split
  · rename_i h
    exact absurd (isDigit_of_mem_toDigits (h ▸ List.mem_cons_self)) (by decide)
  · rename_i h
    exact absurd (isDigit_of_mem_toDigits (h ▸ List.mem_cons_self)) (by decide)
  · rfl

theorem integer?_toString (n : Nat) : integer? (toString n) = some (n : Int) := by
  rw [integer?, toList_toString, takeSign_toDigits]
  dsimp only
  rw [digits?_toDigits]
  rfl

/-- A text of digits is no word. -/
theorem ofList_ne_of_digits {cs : List Char} {word : String} (hcs : ∀ c ∈ cs, c.isDigit = true)
    (hword : ∃ c ∈ word.toList, c.isDigit = false) : String.ofList cs ≠ word := by
  rintro rfl
  obtain ⟨c, hc, hdigit⟩ := hword
  rw [String.toList_ofList] at hc
  rw [hcs c hc] at hdigit
  cases hdigit

theorem toLower_of_isDigit {c : Char} (h : c.isDigit = true) : c.toLower = c := by
  rw [Char.isDigit, Bool.and_eq_true, decide_eq_true_eq, decide_eq_true_eq] at h
  unfold Char.toLower
  split
  · rename_i hupper
    exact absurd (UInt32.le_trans hupper.1 h.2) (by decide)
  · rfl

theorem span_of_all {p : Char → Bool} {cs : List Char} (h : ∀ c ∈ cs, p c = true) :
    cs.span p = (cs, []) := by
  rw [← List.append_nil cs, List.span_eq_takeWhile_dropWhile, List.takeWhile_append_of_pos h,
    List.dropWhile_append_of_pos h, List.takeWhile_nil, List.dropWhile_nil]

/-- The digits of a number of 64 bits are read as the double nearest to it. -/
theorem real?_toString {n : Nat} (hpos : 0 < n) (hhigh : n < UInt64.size) :
    real? (toString n) = some (Float.ofBits (nearestBits n 1)) := by
  have hdigits : ∀ c ∈ Nat.toDigits 10 n, c.isDigit = true := fun _ => isDigit_of_mem_toDigits
  have hlower : (Nat.toDigits 10 n).map Char.toLower = Nat.toDigits 10 n :=
    (List.map_congr_left fun c hc => toLower_of_isDigit (hdigits c hc)).trans (List.map_id _)
  have hnearest : nearest n (0 + 0) = Float.ofBits (nearestBits n 1) := by
    have hlength : (Nat.toDigits 10 n).length ≤ 20 :=
      (Nat.length_toDigits_le_iff (by decide) (by decide)).mpr (hhigh.trans (by decide))
    rw [nearest, if_neg (by omega), if_neg (by omega)]
    exact congrArg (fun m => Float.ofBits (nearestBits m 1)) (Nat.mul_one n)
  have hmantissa : mantissa? (Nat.toDigits 10 n) = some (n, 0) := by
    have hpoint : ∀ c ∈ Nat.toDigits 10 n, decide (c ≠ '.') = true := by
      intro c hc
      refine decide_eq_true ?_
      rintro rfl
      exact absurd (hdigits _ hc) (by decide)
    rw [mantissa?, span_of_all hpoint]
    dsimp only
    rw [List.drop_nil, List.append_nil, digits?_toDigits]
    rfl
  have hexponent : ∀ c ∈ Nat.toDigits 10 n, decide (c ≠ 'e' ∧ c ≠ 'E') = true := by
    intro c hc
    refine decide_eq_true ⟨?_, ?_⟩
    all_goals
      rintro rfl
      exact absurd (hdigits _ hc) (by decide)
  rw [real?, toList_toString, takeSign_toDigits]
  dsimp only
  rw [magnitude?, hlower, if_neg, if_neg, span_of_all hexponent]
  · dsimp only
    rw [hmantissa, exponent?]
    dsimp only
    rw [hnearest]
    rfl
  · exact ofList_ne_of_digits hdigits ⟨'n', by decide, by decide⟩
  · rintro (h | h)
    · exact ofList_ne_of_digits hdigits ⟨'i', by decide, by decide⟩ h
    · exact ofList_ne_of_digits hdigits ⟨'i', by decide, by decide⟩ h

end MooseHerd.Decimal
