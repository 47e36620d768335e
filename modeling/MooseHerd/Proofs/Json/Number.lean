import MooseHerd.Json.Printer
import MooseHerd.Proofs.Decimal.Shortest
import MooseHerd.Proofs.Except
import MooseHerd.Proofs.Json.Numeral

/-! # Numbers in documents

A number is written as a numeral of the same value and read back from it: whole numbers as they are,
doubles up to the roundings of the reader. -/

namespace MooseHerd.Json

open Decimal

/-! ## Digits in documents -/

/-- The numeral of digits and a power in a document. -/
def documentNumeral (x : Digits) : Numeral :=
  let ds := digitText x.digits
  let e := x.power + ds.length - 1
  if -5 ≤ e ∧ e ≤ 15 then
    if 0 ≤ x.power then ⟨ds ++ List.replicate x.power.toNat '0', some ['0'], none⟩
    else
      let places := (-x.power).toNat
      if places < ds.length then
        ⟨ds.take (ds.length - places), some (ds.drop (ds.length - places)), none⟩
      else ⟨['0'], some (List.replicate (places - ds.length) '0' ++ ds), none⟩
  else ⟨ds.take 1, if ds.length ≤ 1 then none else some (ds.drop 1), some e⟩

theorem chars_documentNumeral (x : Digits) :
    (documentNumeral x).chars = documentLayout.magnitudeText x := by
  unfold documentNumeral documentLayout Layout.magnitudeText Layout.plainText Layout.exponentText
  dsimp only
  split
  · split
    · simp [Numeral.chars, Numeral.fractionChars]
    · split
      · simp [Numeral.chars, Numeral.fractionChars]
      · simp [Numeral.chars, Numeral.fractionChars]
  · split <;> split <;> simp [Numeral.chars, Numeral.fractionChars, Numeral.exponentChars, *]

theorem replicate_digits (k : Nat) : ∀ c ∈ List.replicate k '0', isDigit c = true := by
  intro c hc
  rw [List.eq_of_mem_replicate hc]
  rfl

theorem isWellFormed_documentNumeral {x : Digits} (hx : x.digits = 0 → x.power = 0) :
    (documentNumeral x).IsWellFormed := by
  have hne := digitText_ne_nil x.digits
  have hdigits := @isDigit_of_mem_digitText x.digits
  unfold documentNumeral
  dsimp only
  split
  · split
    · -- zeros up to the point
      refine ⟨List.append_ne_nil_of_left_ne_nil hne _, ?_, ?_, ?_, ?_⟩
      · exact fun c hc => (List.mem_append.mp hc).elim (hdigits c) (replicate_digits _ c)
      · intro hlength
        rw [List.head?_append_of_ne_nil _ hne]
        apply head?_digitText
        intro hzero
        rw [hzero, hx hzero] at hlength
        exact absurd hlength (by decide)
      · rintro ds ⟨⟩
        exact List.cons_ne_nil _ _
      · rintro ds ⟨⟩
        exact replicate_digits 1
    · rename_i hpower
      have hzero : x.digits ≠ 0 := fun hzero => hpower (by rw [hx hzero])
      split
      · -- the point among the digits
        rename_i hplaces
        refine ⟨?_, fun c hc => hdigits c (List.mem_of_mem_take hc), fun _ => ?_, ?_, ?_⟩
        · exact fun h => by
            have := congrArg List.length h
            rw [List.length_take, List.length_nil] at this
            omega
        · rw [List.head?_take, if_neg (by omega)]
          exact head?_digitText hzero
        · rintro ds ⟨⟩ h
          have := congrArg List.length h
          rw [List.length_drop, List.length_nil] at this
          omega
        · rintro ds ⟨⟩ c hc
          exact hdigits c (List.mem_of_mem_drop hc)
      · -- zeros after the point
        refine ⟨List.cons_ne_nil _ _, replicate_digits 1, fun h => absurd h (Nat.lt_irrefl 1),
          ?_, ?_⟩
        · rintro ds ⟨⟩
          exact List.append_ne_nil_of_right_ne_nil _ hne
        · rintro ds ⟨⟩ c hc
          exact (List.mem_append.mp hc).elim (replicate_digits _ c) (hdigits c)
  · -- one digit before the point
    refine ⟨?_, fun c hc => hdigits c (List.mem_of_mem_take hc), ?_, ?_, ?_⟩
    · rw [Ne, List.take_eq_nil_iff]
      exact fun h => h.elim (by decide) hne
    · intro hlength
      rw [List.length_take] at hlength
      omega
    · intro ds hds h
      split at hds
      · cases hds
      · cases hds
        have := congrArg List.length h
        rw [List.length_drop, List.length_nil] at this
        omega
    · intro ds hds c hc
      split at hds
      · cases hds
      · cases hds
        exact hdigits c (List.mem_of_mem_drop hc)

theorem natOfDigits_append_zeros (ds : List Char) (k : Nat) :
    natOfDigits (ds ++ List.replicate k '0') = 10 ^ k * natOfDigits ds := by
  rw [natOfDigits_eq, Nat.ofDigitChars_append, Nat.ofDigitChars_replicate_zero]
  rfl

theorem natOfDigits_zeros_append (ds : List Char) (k : Nat) :
    natOfDigits (List.replicate k '0' ++ ds) = natOfDigits ds := by
  rw [natOfDigits_eq, Nat.ofDigitChars_append, Nat.ofDigitChars_replicate_zero, Nat.mul_zero]
  rfl

/-- The numeral of digits stands for the number that they do. -/
theorem value_documentNumeral (x : Digits) : (documentNumeral x).value = x.value := by
  have hnat := natOfDigits_digitText x.digits
  unfold documentNumeral Numeral.value Digits.value
  dsimp only
  split
  · split
    · rename_i hpower
      obtain ⟨p, hp⟩ := Int.eq_ofNat_of_zero_le hpower
      rw [hp, Int.toNat_natCast, Option.getD_some, List.append_assoc,
        show List.replicate p '0' ++ ['0'] = List.replicate (p + 1) '0' from
          List.replicate_succ'.symm, natOfDigits_append_zeros, hnat]
      change ((10 ^ (p + 1) * x.digits : Nat) : ℚ) * 10 ^ (-1 : Int) = _
      push_cast
      rw [zpow_neg_one, pow_succ, zpow_natCast]
      ring
    · rename_i hpower
      split
      · rename_i hplaces
        rw [Option.getD_some, List.take_append_drop, hnat, List.length_drop, Option.getD_none]
        congr 2
        omega
      · rename_i hplaces
        rw [Option.getD_some, Option.getD_none, List.length_append, List.length_replicate,
          ← List.append_assoc, show ['0'] = List.replicate 1 '0' from rfl, ← List.replicate_add,
          natOfDigits_zeros_append, hnat]
        congr 2
        omega
  · have hpos : 0 < (digitText x.digits).length := List.length_pos_iff.mpr (digitText_ne_nil _)
    rw [Option.getD_some]
    split
    · rename_i hlength
      rw [Option.getD_none, List.append_nil, List.take_of_length_le hlength, hnat, List.length_nil]
      congr 2
      omega
    · rw [Option.getD_some, List.take_append_drop, hnat, List.length_drop]
      congr 2
      omega

theorem natOfDigits_lt {ds : List Char} (h : ∀ c ∈ ds, isDigit c = true) :
    natOfDigits ds < 10 ^ ds.length := by
  induction ds with
  | nil => decide
  | cons d ds ih =>
    have hdigit : digitValue d ≤ 9 := by
      have hd := h d List.mem_cons_self
      rw [isDigit, Bool.and_eq_true, decide_eq_true_eq, decide_eq_true_eq] at hd
      exact Nat.sub_le_sub_right (show d.toNat ≤ '9'.toNat from hd.2) _
    have hrest := ih fun c hc => h c (List.mem_cons_of_mem _ hc)
    have hcons := natOfDigits_append [d] ds
    change natOfDigits (d :: ds) =
      (10 * 0 + digitValue d) * 10 ^ ds.length + natOfDigits ds at hcons
    rw [Nat.mul_zero, Nat.zero_add] at hcons
    rw [hcons, List.length_cons, Nat.pow_succ]
    have hmul := Nat.mul_le_mul_right (10 ^ ds.length) hdigit
    omega

/-- At most sixteen digits stand before the point. -/
theorem length_whole_documentNumeral (x : Digits) : (documentNumeral x).whole.length ≤ 16 := by
  unfold documentNumeral
  dsimp only
  split
  · split
    · rw [List.length_append, List.length_replicate]
      omega
    · split
      · rw [List.length_take]
        omega
      · exact Nat.le_add_left 1 15
  · rw [List.length_take]
    omega

theorem natOfDigits_whole_lt {n : Numeral} (hn : n.IsWellFormed) (hlength : n.whole.length ≤ 16) :
    natOfDigits n.whole < UInt64.size := by
  calc natOfDigits n.whole < 10 ^ n.whole.length := natOfDigits_lt hn.whole_digits
    _ ≤ 10 ^ 16 := Nat.pow_le_pow_right (by decide) hlength
    _ < UInt64.size := by decide

/-! ## Numbers -/

namespace Number

/-- The numbers that a document can hold: whole ones of 64 bits, with or without a sign, and finite
doubles. -/
def IsWritable : Number → Prop
  | whole n => -(2 ^ 63) ≤ n ∧ n < 2 ^ 64
  | real x => x.isFinite = true

def isNegative : Number → Bool
  | whole n => decide (n < 0)
  | real x => decide (x.toBits >>> 63 = 1)

/-- The digits of a double without its sign. -/
def digitsOf (x : Float) : Digits := if x == 0 then ⟨0, 0⟩ else shortest x

def numeral : Number → Numeral
  | whole n => ⟨digitText n.natAbs, none, none⟩
  | real x => documentNumeral (digitsOf x)

/-- The number that the text of a number is read as. -/
def reread (n : Number) : Number := (n.numeral.number? n.isNegative).getD n

theorem chars_eq {n : Number} (hn : n.IsWritable) :
    n.chars = (if n.isNegative then ['-'] else []) ++ n.numeral.chars := by
  cases n with
  | whole n =>
    have hchars : (numeral (whole n)).chars = digitText n.natAbs := by
      simp [numeral, Numeral.chars]
    rw [hchars]
    cases n with
    | ofNat n => exact Nat.toList_repr
    | negSucc n =>
      rw [if_pos (show (whole (Int.negSucc n)).isNegative = true from
        decide_eq_true (Int.negSucc_lt_zero n))]
      change ("-" ++ Nat.repr (n + 1)).toList = '-' :: digitText (n + 1)
      rw [String.toList_append, Nat.toList_repr]
      rfl
  | real x =>
    have hnan : x.isNaN = false := by
      change x.toModel.unpack.isFinite = true at hn
      change x.toModel.unpack.isNaN = false
      cases h : x.toModel.unpack <;> rw [h] at hn <;> first | rfl | cases hn
    have hinf : x.isInf = false := by
      change x.toModel.unpack.isFinite = true at hn
      change x.toModel.unpack.isInf = false
      cases h : x.toModel.unpack <;> rw [h] at hn <;> first | rfl | cases hn
    change (documentLayout.text x).toList = _
    unfold Layout.text
    rw [hnan, hinf]
    dsimp only
    rw [if_neg Bool.false_ne_true, if_neg Bool.false_ne_true, String.toList_ofList, numeral,
      chars_documentNumeral]
    simp only [isNegative, decide_eq_true_eq]
    rfl

theorem power_of_digitsOf {x : Float} (hx : x.isFinite = true) (h : (digitsOf x).digits = 0) :
    (digitsOf x).power = 0 := by
  unfold digitsOf at h ⊢
  split at h
  · rename_i hzero
    rw [if_pos hzero]
  · rename_i hzero
    rw [if_neg hzero]
    obtain ⟨hpos, -, -⟩ := bounds_ofBits hx (Bool.eq_false_iff.mpr hzero)
    rcases Binary.shortestFrom_spec hpos 1 17 with heq | ⟨hne, -⟩
    · exact congrArg Digits.power heq
    · exact absurd h hne

/-- The greatest doubles are read, though they are too close to the end for any estimate. -/
theorem number?_isSome_of_last :
    ∀ m ∈ List.range 16, ∀ narrow negative : Bool,
      ((documentNumeral (Binary.shortestFrom ⟨2 ^ 53 - 1 - m, 971, narrow⟩ 1 17)).number?
        negative).isSome = true := by
  decide +kernel

/-- All others leave room for an estimate. -/
theorem upperEnd_le {b : Binary} (hmantissa : b.mantissa < 2 ^ 53) (hexponent : b.exponent ≤ 971)
    (h : ¬ (b.exponent = 971 ∧ 2 ^ 53 - 16 ≤ b.mantissa)) :
    b.upperEnd ≤ 2 ^ 1024 - 2 ^ 974 := by
  have hend : (2 : ℚ) ^ 1024 - 2 ^ 974 = (2 ^ 53 - 8) * 2 ^ (971 : Int) := by
    rw [sub_mul, zpow_ofNat, ← pow_add, show (8 : ℚ) = 2 ^ 3 by norm_num, ← pow_add]
  rw [hend, Binary.upperEnd]
  by_cases he : b.exponent = 971
  · have hm : b.mantissa + 1 ≤ 2 ^ 53 - 16 := by omega
    have hm' : (b.mantissa : ℚ) + 1 ≤ 2 ^ 53 - 16 := by
      have : ((b.mantissa + 1 : Nat) : ℚ) ≤ (2 ^ 53 - 16 : Nat) := by exact_mod_cast hm
      norm_num at this ⊢
      exact this
    rw [he]
    refine mul_le_mul_of_nonneg_right ?_ (zpow_nonneg (by norm_num) _)
    linarith
  · have hpow : (2 : ℚ) ^ b.exponent ≤ 2 ^ (970 : Int) :=
      zpow_le_zpow_right₀ (by norm_num) (by omega)
    have hm : (b.mantissa : ℚ) + 1 ≤ 2 ^ 53 := by exact_mod_cast hmantissa
    calc ((b.mantissa : ℚ) + 1 / 2) * 2 ^ b.exponent ≤ 2 ^ 53 * 2 ^ (970 : Int) :=
          mul_le_mul (by linarith) hpow (zpow_nonneg (by norm_num) _) (by norm_num)
      _ = 2 ^ 52 * 2 ^ (971 : Int) := by
          rw [show (971 : Int) = 1 + 970 from rfl, zpow_add₀ (by norm_num), ← mul_assoc]
          norm_num
      _ ≤ (2 ^ 53 - 8) * 2 ^ (971 : Int) :=
          mul_le_mul_of_nonneg_right (by norm_num) (zpow_nonneg (by norm_num) _)

theorem number?_isSome {x : Float} (hx : x.isFinite = true) (negative : Bool) :
    ((documentNumeral (digitsOf x)).number? negative).isSome = true := by
  have hwhole := natOfDigits_whole_lt (isWellFormed_documentNumeral (power_of_digitsOf hx))
    (length_whole_documentNumeral (digitsOf x))
  by_cases hzero : x == 0
  · rw [digitsOf, if_pos hzero]
    revert negative
    decide +kernel
  · obtain ⟨hpos, hmantissa, hexponent⟩ := bounds_ofBits hx (Bool.eq_false_iff.mpr hzero)
    have hdigits : digitsOf x = (Binary.ofBits x.toBits).shortestFrom 1 17 := if_neg hzero
    rw [hdigits] at hwhole ⊢
    generalize Binary.ofBits x.toBits = b at *
    by_cases hlast : b.exponent = 971 ∧ 2 ^ 53 - 16 ≤ b.mantissa
    · obtain ⟨mantissa, exponent, narrow⟩ := b
      obtain ⟨rfl, hlow⟩ := hlast
      dsimp only at hmantissa hlow
      have hread := number?_isSome_of_last (2 ^ 53 - 1 - mantissa) (List.mem_range.mpr (by omega))
        narrow negative
      rw [show 2 ^ 53 - 1 - (2 ^ 53 - 1 - mantissa) = mantissa by omega] at hread
      exact hread
    · refine Numeral.number?_isSome hwhole ?_ negative
      rw [value_documentNumeral]
      rcases Binary.shortestFrom_spec hpos 1 17 with heq | ⟨-, hvalue⟩
      · rw [heq, Digits.value, Nat.cast_zero, zero_mul]
        exact sub_nonneg.mpr (pow_le_pow_right₀ (by norm_num) (by norm_num))
      · exact hvalue.trans (upperEnd_le hmantissa hexponent hlast)

/-- Whole numbers are read back as they are. -/
theorem number?_numeral_whole {n : Int} (hn : (whole n).IsWritable) :
    (numeral (whole n)).number? (whole n).isNegative = some (whole n) := by
  obtain ⟨hlow, hhigh⟩ := hn
  have hread : accumulate 0 (digitText n.natAbs) = (n.natAbs, 0) := by
    have hnat := natOfDigits_digitText n.natAbs
    rw [natOfDigits_eq] at hnat
    rw [accumulate_of_lt, hnat]
    rw [hnat]
    exact show n.natAbs < 2 ^ 64 by omega
  by_cases hneg : n < 0
  · rw [show (whole n).isNegative = true from decide_eq_true hneg]
    unfold Numeral.number?
    rw [show (numeral (whole n)).whole = digitText n.natAbs from rfl, hread]
    change (if 0 < n.natAbs ∧ n.natAbs ≤ 2 ^ 63 then some (whole (-n.natAbs)) else _) = _
    rw [if_pos (by omega), show -(n.natAbs : Int) = n by omega]
  · rw [show (whole n).isNegative = false from decide_eq_false hneg]
    unfold Numeral.number?
    rw [show (numeral (whole n)).whole = digitText n.natAbs from rfl, hread]
    change some (whole n.natAbs) = _
    rw [show (n.natAbs : Int) = n by omega]

/-- Every number that a document can hold is read back as some number. -/
theorem number?_numeral {n : Number} (hn : n.IsWritable) :
    n.numeral.number? n.isNegative = some n.reread := by
  have hsome : (n.numeral.number? n.isNegative).isSome = true := by
    cases n with
    | whole n => rw [number?_numeral_whole hn]; rfl
    | real x => exact number?_isSome hn _
  obtain ⟨m, hm⟩ := Option.isSome_iff_exists.mp hsome
  rw [reread, hm]
  rfl

theorem isWellFormed_numeral {n : Number} (hn : n.IsWritable) : n.numeral.IsWellFormed := by
  cases n with
  | whole n =>
    refine ⟨digitText_ne_nil _, isDigit_of_mem_digitText, ?_, nofun, nofun⟩
    intro hlength
    apply head?_digitText
    intro hzero
    rw [numeral, hzero] at hlength
    exact absurd hlength (by decide)
  | real x => exact isWellFormed_documentNumeral (power_of_digitsOf hn)

/-- A number is read back, whatever ends it. -/
theorem readNumber_append {n : Number} {rest : List Char} (hn : n.IsWritable)
    (hrest : EndsNumber rest) :
    readNumber n.isNegative (n.numeral.chars ++ rest) = .ok (n.reread, rest) := by
  unfold readNumber
  rw [takeNumeral_append (isWellFormed_numeral hn) hrest, ok_bind]
  dsimp only
  rw [number?_numeral hn]
  rfl

end Number

end MooseHerd.Json
