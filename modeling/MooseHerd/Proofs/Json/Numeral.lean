import Mathlib.Algebra.Order.Field.Power
import MooseHerd.Decimal.Layout
import MooseHerd.Proofs.Json.Scaled

/-! # Numerals

A numeral is read back part by part, whatever ends it. It is read as a number unless its value is
beyond the doubles or close to their end. -/

namespace MooseHerd.Json

open Decimal

/-! ## Digits -/

theorem isDigit_of_mem_digitText {n : Nat} : ∀ c ∈ digitText n, isDigit c = true :=
  fun _ h => Nat.isDigit_of_mem_toDigits (by decide) (by decide) h

theorem natOfDigits_eq (ds : List Char) : natOfDigits ds = Nat.ofDigitChars 10 ds 0 := rfl

@[simp]
theorem natOfDigits_digitText (n : Nat) : natOfDigits (digitText n) = n :=
  Nat.ofDigitChars_ten_toDigits

theorem natOfDigits_append (ds ds' : List Char) :
    natOfDigits (ds ++ ds') = natOfDigits ds * 10 ^ ds'.length + natOfDigits ds' := by
  rw [natOfDigits_eq, Nat.ofDigitChars_append, Nat.ofDigitChars_eq_ofDigitChars_zero, Nat.mul_comm]
  rfl

theorem digitText_ne_nil (n : Nat) : digitText n ≠ [] := Nat.toDigits_ne_nil

/-- Only zero starts with a zero. -/
theorem head?_digitText {n : Nat} (hn : n ≠ 0) : (digitText n).head? ≠ some '0' := by
  induction n using Nat.strongRecOn with
  | ind n ih =>
    rw [digitText, Nat.toDigits_eq_if (by decide)]
    split
    · rename_i hlt
      have hdigit : ∀ n < 10, n ≠ 0 → [n.digitChar].head? ≠ some '0' := by decide
      exact hdigit n hlt hn
    · rename_i hle
      rw [List.head?_append_of_ne_nil _ Nat.toDigits_ne_nil]
      exact ih (n / 10) (by omega) (by omega)

/-- What follows does not start with a digit. -/
def EndsDigits (rest : List Char) : Prop := ∀ c ∈ rest.head?, isDigit c = false

theorem takeDigits_append {ds rest : List Char} (hne : ds ≠ []) (hds : ∀ c ∈ ds, isDigit c = true)
    (hrest : EndsDigits rest) : takeDigits (ds ++ rest) = .ok (ds, rest) := by
  have hspan : (ds ++ rest).span isDigit = (ds, rest) := by
    rw [List.span_eq_takeWhile_dropWhile, List.takeWhile_append_of_pos hds,
      List.dropWhile_append_of_pos hds]
    cases rest with
    | nil => rw [List.takeWhile_nil, List.dropWhile_nil, List.append_nil]
    | cons c rest =>
      have hc := hrest c rfl
      rw [List.takeWhile_cons_of_neg (by rw [hc]; decide),
        List.dropWhile_cons_of_neg (by rw [hc]; decide), List.append_nil]
  unfold takeDigits
  rw [hspan]
  cases ds with
  | nil => exact absurd rfl hne
  | cons d ds => rfl

/-! ## Numerals -/

/-- What follows does not belong to a number. -/
def EndsNumber (rest : List Char) : Prop :=
  ∀ c ∈ rest.head?, isDigit c = false ∧ c ≠ '.' ∧ c ≠ 'e' ∧ c ≠ 'E'

theorem EndsNumber.endsDigits {rest : List Char} (h : EndsNumber rest) : EndsDigits rest :=
  fun c hc => (h c hc).1

namespace Numeral

/-- The exponent with its letter and its sign. -/
def exponentChars (e : Int) : List Char :=
  'e' :: (if e < 0 then '-' else '+') :: digitText e.natAbs

def fractionChars (ds : List Char) : List Char := '.' :: ds

def chars (n : Numeral) : List Char :=
  n.whole ++ (n.fraction.elim [] fractionChars ++ n.exponent.elim [] exponentChars)

/-- The digits are some, and a zero in front stands alone. -/
structure IsWellFormed (n : Numeral) : Prop where
  whole_ne_nil : n.whole ≠ []
  whole_digits : ∀ c ∈ n.whole, isDigit c = true
  whole_head : 1 < n.whole.length → n.whole.head? ≠ some '0'
  fraction_ne_nil : ∀ ds ∈ n.fraction, ds ≠ []
  fraction_digits : ∀ ds ∈ n.fraction, ∀ c ∈ ds, isDigit c = true

end Numeral

theorem takeWhole_append {ds rest : List Char} (hne : ds ≠ []) (hds : ∀ c ∈ ds, isDigit c = true)
    (hhead : 1 < ds.length → ds.head? ≠ some '0') (hrest : EndsDigits rest) :
    takeWhole (ds ++ rest) = .ok (ds, rest) := by
  unfold takeWhole
  rw [takeDigits_append hne hds hrest]
  refine if_neg ?_
  rw [Bool.and_eq_true, decide_eq_true_eq, decide_eq_true_eq]
  exact fun h => hhead h.1 h.2

theorem takeFraction_append {fraction : Option (List Char)} {rest : List Char}
    (hne : ∀ ds ∈ fraction, ds ≠ []) (hds : ∀ ds ∈ fraction, ∀ c ∈ ds, isDigit c = true)
    (hrest : EndsDigits rest) (hpoint : ∀ c ∈ rest.head?, c ≠ '.') :
    takeFraction (fraction.elim [] Numeral.fractionChars ++ rest) = .ok (fraction, rest) := by
  cases fraction with
  | none =>
    change takeFraction rest = _
    unfold takeFraction
    split
    · exact absurd rfl (hpoint '.' rfl)
    · rfl
  | some ds =>
    change (do let taken ← takeDigits (ds ++ rest); return (some taken.1, taken.2)) = _
    rw [takeDigits_append (hne ds rfl) (hds ds rfl) hrest]
    rfl

theorem takeExponent_append {exponent : Option Int} {rest : List Char} (hrest : EndsNumber rest) :
    takeExponent (exponent.elim [] Numeral.exponentChars ++ rest) = .ok (exponent, rest) := by
  cases exponent with
  | none =>
    change takeExponent rest = _
    cases rest with
    | nil => rfl
    | cons c rest =>
      obtain ⟨-, -, he, hE⟩ := hrest c rfl
      exact if_neg (by rintro (h | h) <;> contradiction)
  | some e =>
    have hdigits := takeDigits_append (digitText_ne_nil e.natAbs) isDigit_of_mem_digitText
      hrest.endsDigits
    have hsigned : ∀ cs, takeExponent ('e' :: (if e < 0 then '-' else '+') :: cs) =
        (do
          let taken ← takeDigits cs
          return (some (if e < 0 then -(natOfDigits taken.1 : Int) else natOfDigits taken.1),
            taken.2)) := by
      intro cs
      split <;> rfl
    have hvalue : (if e < 0 then -(natOfDigits (digitText e.natAbs) : Int)
        else natOfDigits (digitText e.natAbs)) = e := by
      rw [natOfDigits_digitText]
      split <;> omega
    change takeExponent ('e' :: (if e < 0 then '-' else '+') :: (digitText e.natAbs ++ rest)) = _
    rw [hsigned, hdigits]
    exact congrArg (fun n => Except.ok (some n, rest)) hvalue

/-- What follows the digits before the point is no digit. -/
theorem endsDigits_exponent {exponent : Option Int} {rest : List Char} (hrest : EndsNumber rest) :
    EndsDigits (exponent.elim [] Numeral.exponentChars ++ rest) := by
  cases exponent with
  | none => exact hrest.endsDigits
  | some e =>
    intro c hc
    cases hc
    rfl

/-- A numeral is read back, whatever ends it. -/
theorem takeNumeral_append {n : Numeral} {rest : List Char} (hn : n.IsWellFormed)
    (hrest : EndsNumber rest) : takeNumeral (n.chars ++ rest) = .ok (n, rest) := by
  obtain ⟨whole, fraction, exponent⟩ := n
  have hexponent := @endsDigits_exponent exponent rest hrest
  have hpoint : ∀ c ∈ (exponent.elim [] Numeral.exponentChars ++ rest).head?, c ≠ '.' := by
    cases exponent with
    | none => exact fun c hc => (hrest c hc).2.1
    | some e =>
      intro c hc
      cases hc
      decide
  have hfraction : EndsDigits (fraction.elim [] Numeral.fractionChars ++
      (exponent.elim [] Numeral.exponentChars ++ rest)) := by
    cases fraction with
    | none => exact hexponent
    | some ds =>
      intro c hc
      cases hc
      rfl
  rw [Numeral.chars, List.append_assoc, List.append_assoc]
  unfold takeNumeral
  rw [takeWhole_append hn.whole_ne_nil hn.whole_digits hn.whole_head hfraction]
  change (do
    let taken ← takeFraction (fraction.elim [] Numeral.fractionChars ++
      (exponent.elim [] Numeral.exponentChars ++ rest))
    let taken' ← takeExponent taken.2
    return (({ whole, fraction := taken.1, exponent := taken'.1 } : Numeral), taken'.2)) = _
  rw [takeFraction_append hn.fraction_ne_nil hn.fraction_digits hexponent hpoint]
  change (do
    let taken ← takeExponent (exponent.elim [] Numeral.exponentChars ++ rest)
    return (({ whole, fraction, exponent := taken.1 } : Numeral), taken.2)) = _
  rw [takeExponent_append hrest]
  rfl

/-! ## Values -/

/-- The number that a numeral without its sign stands for. -/
def Numeral.value (n : Numeral) : ℚ :=
  natOfDigits (n.whole ++ n.fraction.getD []) *
    10 ^ (n.exponent.getD 0 - (n.fraction.getD []).length)

/-- The digits that fit into a word, followed by zeros in the place of the others. -/
theorem accumulate_spec (ds : List Char) {s : Nat} (hs : s < UInt64.size) :
    (accumulate s ds).1 < UInt64.size ∧ (accumulate s ds).2 ≤ ds.length ∧
      (accumulate s ds).1 * 10 ^ (accumulate s ds).2 ≤ Nat.ofDigitChars 10 ds s := by
  induction ds generalizing s with
  | nil => exact ⟨hs, Nat.le_refl _, Nat.le_of_eq (Nat.mul_one s)⟩
  | cons d ds ih =>
    rw [accumulate]
    split
    · rename_i hnext
      obtain ⟨hsize, hlength, hvalue⟩ := ih hnext
      exact ⟨hsize, Nat.le_succ_of_le hlength, hvalue⟩
    · refine ⟨hs, Nat.le_refl _, ?_⟩
      rw [Nat.ofDigitChars_eq_ofDigitChars_zero, Nat.mul_comm]
      exact Nat.le_add_right _ _

/-- No digit is dropped if the number fits into a word. -/
theorem accumulate_of_lt {ds : List Char} {s : Nat} (h : Nat.ofDigitChars 10 ds s < UInt64.size) :
    accumulate s ds = (Nat.ofDigitChars 10 ds s, 0) := by
  induction ds generalizing s with
  | nil => rfl
  | cons d ds ih =>
    rw [Nat.ofDigitChars_cons] at h ⊢
    have hnext : 10 * s + digitValue d < UInt64.size := by
      refine Nat.lt_of_le_of_lt ?_ h
      rw [Nat.ofDigitChars_eq_ofDigitChars_zero]
      exact Nat.le_add_right_of_le (Nat.le_mul_of_pos_left _ (Nat.pow_pos (by decide)))
    rw [accumulate, if_pos hnext]
    exact ih h

/-- A numeral is read as a number unless it is beyond the doubles or close to their end. -/
theorem Numeral.number?_isSome {n : Numeral} (hwhole : natOfDigits n.whole < UInt64.size)
    (hvalue : n.value ≤ 2 ^ 1024 - 2 ^ 974) (negative : Bool) :
    (n.number? negative).isSome = true := by
  obtain ⟨whole, fraction, exponent⟩ := n
  have hparts : ∀ places : List Char, ∀ e : Int,
      (natOfDigits (whole ++ places) : ℚ) * 10 ^ (e - places.length) ≤ 2 ^ 1024 - 2 ^ 974 →
      let read := accumulate (natOfDigits whole) places
      (scaled? read.1 ((0 : Nat) - ((places.length - read.2 : Nat) : Int) + e)).isSome = true := by
    intro places e hle read
    obtain ⟨hsize, hlength, hdigits⟩ : read.1 < UInt64.size ∧ read.2 ≤ places.length ∧
        read.1 * 10 ^ read.2 ≤ Nat.ofDigitChars 10 places (natOfDigits whole) :=
      accumulate_spec places hwhole
    refine scaled?_isSome hsize (le_trans ?_ hle)
    have hdigits' : (read.1 : ℚ) * 10 ^ read.2 ≤ natOfDigits (whole ++ places) := by
      rw [natOfDigits_eq, Nat.ofDigitChars_append]
      exact_mod_cast hdigits
    have hpow : (0 : ℚ) ≤ 10 ^ (e - places.length) := zpow_nonneg (by norm_num) _
    calc (read.1 : ℚ) * 10 ^ ((0 : Nat) - ((places.length - read.2 : Nat) : Int) + e)
        = read.1 * 10 ^ read.2 * 10 ^ (e - places.length) := by
          rw [mul_assoc, ← zpow_natCast, ← zpow_add₀ (by norm_num)]
          congr 2
          omega
      _ ≤ natOfDigits (whole ++ places) * 10 ^ (e - places.length) :=
          mul_le_mul_of_nonneg_right hdigits' hpow
  have hread : accumulate 0 whole = (natOfDigits whole, 0) := accumulate_of_lt hwhole
  unfold number?
  dsimp only
  rw [hread]
  dsimp only
  split
  · rw [if_pos rfl]
    split
    · rfl
    · split <;> rfl
  · rename_i fraction exponent _
    rw [Option.isSome_map]
    exact hparts _ _ hvalue

end MooseHerd.Json
