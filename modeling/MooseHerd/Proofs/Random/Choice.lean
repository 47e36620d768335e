import Mathlib.Logic.Function.Iterate
import MooseHerd.Random.Choice

/-! # Choices in machine words

A number below a bound is the high half of a random word times the bound. Where the low half is
large, a second word decides whether one more is carried into the high half. The arithmetic of
`below` has no bounds of its own; here it is told in words of 32 bits that wrap around. No step of
it overflows, and not even the carry takes a number to its bound. -/

namespace MooseHerd.Random

/-! ## Taking words -/

section

variable {ρ : Type} [WordSource ρ]

/-- What is left of a source after `n` words. -/
def wordsAfter (s : ρ) (n : Nat) : ρ := (fun s => (next32 s).2)^[n] s

/-- The word with number `n`, counted from zero. -/
def wordAt (s : ρ) (n : Nat) : UInt32 := (next32 (wordsAfter s n)).1

end

/-! ## Products of words -/

/-- The high half of a product of two words. -/
def productHigh (a b : UInt32) : UInt32 := ((a.toUInt64 * b.toUInt64) >>> 32).toUInt32

/-- The low half of a product of two words. -/
def productLow (a b : UInt32) : UInt32 := (a.toUInt64 * b.toUInt64).toUInt32

theorem toNat_mul_lt (a b : UInt32) : a.toNat * b.toNat < wordCount * wordCount :=
  Nat.mul_lt_mul'' a.toNat_lt b.toNat_lt

theorem toNat_mul_toUInt64 (a b : UInt32) :
    (a.toUInt64 * b.toUInt64).toNat = a.toNat * b.toNat := by
  rw [UInt64.toNat_mul, UInt32.toNat_toUInt64, UInt32.toNat_toUInt64]
  exact Nat.mod_eq_of_lt (toNat_mul_lt a b)

theorem toNat_productHigh (a b : UInt32) :
    (productHigh a b).toNat = a.toNat * b.toNat / wordCount := by
  have hshift : (32 : UInt64).toNat % 64 = 32 := rfl
  rw [productHigh, UInt64.toNat_toUInt32, UInt64.toNat_shiftRight, toNat_mul_toUInt64, hshift,
    Nat.shiftRight_eq_div_pow]
  exact Nat.mod_eq_of_lt (Nat.div_lt_of_lt_mul (toNat_mul_lt a b))

theorem toNat_productLow (a b : UInt32) :
    (productLow a b).toNat = a.toNat * b.toNat % wordCount := by
  rw [productLow, UInt64.toNat_toUInt32, toNat_mul_toUInt64]
  rfl

/-- A word times a number falls short of the number of words times it by the number at least. -/
theorem toNat_mul_add_le (w : UInt32) (n : Nat) : w.toNat * n + n ≤ wordCount * n := by
  rw [← Nat.succ_mul]
  exact Nat.mul_le_mul_right n w.toNat_lt

/-! ## Numbers below a bound -/

/-- Whether a second word is needed: the low half of the product is so large that a carry into the
high half is possible. -/
def mayCarry (n w : UInt32) : Bool := -n < productLow w n

/-- Whether the low half overflows when the high half of the second product is added. -/
def carries (n w v : UInt32) : Bool := productLow w n + productHigh v n < productLow w n

/-- A number below `n` from a word and, if it is needed, a second one. -/
def pick (n w v : UInt32) : UInt32 :=
  if mayCarry n w && carries n w v then productHigh w n + 1 else productHigh w n

/-- How many words a number below `n` takes if `w` is the first one. -/
def wordsFor (n w : UInt32) : Nat := if mayCarry n w then 2 else 1

theorem mayCarry_iff {n w : UInt32} :
    mayCarry n w = true ↔ wordCount - n.toNat < w.toNat * n.toNat % wordCount := by
  have hn := n.toNat_lt
  have hproduct := toNat_mul_add_le w n.toNat
  rw [mayCarry, decide_eq_true_iff, UInt32.lt_iff_toNat_lt, toNat_productLow, UInt32.toNat_neg]
  generalize w.toNat * n.toNat = product at hproduct
  simp only [wordCount, UInt32.size] at *
  omega

/-- The carry is what the sum of the two halves has beyond a word. -/
theorem toNat_carries (n w v : UInt32) : (carries n w v).toNat =
    (w.toNat * n.toNat % wordCount + v.toNat * n.toNat / wordCount) / wordCount := by
  have hhigh := (productHigh v n).toNat_lt
  rw [toNat_productHigh] at hhigh
  have hcarries : carries n w v = true ↔
      wordCount ≤ w.toNat * n.toNat % wordCount + v.toNat * n.toNat / wordCount := by
    rw [carries, decide_eq_true_iff, UInt32.lt_iff_toNat_lt, UInt32.toNat_add, toNat_productHigh,
      toNat_productLow]
    simp only [wordCount, UInt32.size] at *
    omega
  cases h : carries n w v with
  | false =>
    have hsmall := mt hcarries.mpr (Bool.eq_false_iff.mp h)
    exact (Nat.div_eq_of_lt (Nat.lt_of_not_le hsmall)).symm
  | true =>
    have hlarge := hcarries.mp h
    simp only [wordCount, UInt32.size, Bool.toNat_true] at *
    omega

/-- With the carry a number is still below the bound. -/
theorem productHigh_add_carries_lt {n : UInt32} (hn : 0 < n.toNat) (w v : UInt32) :
    (productHigh w n).toNat + (carries n w v).toNat < n.toNat := by
  have hw := toNat_mul_add_le w n.toNat
  have hv := toNat_mul_add_le v n.toNat
  rw [toNat_productHigh, toNat_carries]
  generalize w.toNat * n.toNat = product at hw
  generalize v.toNat * n.toNat = more at hv
  simp only [wordCount, UInt32.size] at *
  omega

theorem toNat_pick {n : UInt32} (hn : 0 < n.toNat) (w v : UInt32) : (pick n w v).toNat =
    (productHigh w n).toNat + if mayCarry n w then (carries n w v).toNat else 0 := by
  have hlt := productHigh_add_carries_lt hn w v
  rw [pick]
  cases hmay : mayCarry n w with
  | false => rfl
  | true =>
    cases hcarry : carries n w v with
    | false => rfl
    | true =>
      rw [hcarry] at hlt
      exact (UInt32.toNat_add _ _).trans (Nat.mod_eq_of_lt (Nat.lt_trans hlt n.toNat_lt))

/-- **A number below a bound is below it**, with and without the carry. -/
theorem toNat_pick_lt {n : UInt32} (hn : 0 < n.toNat) (w v : UInt32) :
    (pick n w v).toNat < n.toNat := by
  have hlt := productHigh_add_carries_lt hn w v
  rw [toNat_pick hn]
  split <;> omega

variable {ρ : Type} [WordSource ρ]

theorem below_toNat {n : UInt32} (hn : 0 < n.toNat) (s : ρ) : below n.toNat s =
    ((pick n (wordAt s 0) (wordAt s 1)).toNat, wordsAfter s (wordsFor n (wordAt s 0))) := by
  rw [toNat_pick hn, toNat_carries, toNat_productHigh, wordsFor]
  unfold below
  by_cases hmay : mayCarry n (wordAt s 0) = true
  · rw [if_pos hmay, if_pos hmay]
    exact if_pos (mayCarry_iff.mp hmay)
  · rw [if_neg hmay, if_neg hmay]
    exact if_neg (mt mayCarry_iff.mpr hmay)

/-- An element is chosen by a number below the size, which is an index in bounds. -/
theorem choose?_eq {α : Type} {items : Array α} (hne : 0 < items.size)
    (hsize : items.size < wordCount) (s : ρ) :
    let n := UInt32.ofNat items.size
    ∃ _ : (pick n (wordAt s 0) (wordAt s 1)).toNat < items.size, choose? items s =
      (some items[(pick n (wordAt s 0) (wordAt s 1)).toNat],
        wordsAfter s (wordsFor n (wordAt s 0))) := by
  intro n
  have hn : n.toNat = items.size := UInt32.toNat_ofNat_of_lt' hsize
  have hlt := toNat_pick_lt (hn ▸ hne) (wordAt s 0) (wordAt s 1)
  rw [hn] at hlt
  refine ⟨hlt, ?_⟩
  have hbelow := below_toNat (hn ▸ hne) s
  rw [hn] at hbelow
  have hfull : ¬ items.isEmpty = true := by
    rw [Array.isEmpty_iff_size_eq_zero]
    exact Nat.ne_of_gt hne
  rw [choose?, if_neg hfull, hbelow]
  exact Prod.ext (Array.getElem?_eq_getElem hlt) rfl

end MooseHerd.Random
