import MooseHerd.Decimal.Bounded
import MooseHerd.Proofs.Decimal.Digits
import MooseHerd.Proofs.Except

/-! # Numbers of a limited range

A text is read as a number of a range only if the number that it denotes is in the range: nothing is
cut off and nothing wraps around. -/

namespace MooseHerd.Decimal

/-- A text denotes a whole number: it consists of decimal digits, perhaps with a plus sign before
them. -/
def Denotes (text : String) (n : Nat) : Prop :=
  ∃ digits : List Char, (text.toList = digits ∨ text.toList = '+' :: digits) ∧ digits ≠ [] ∧
    (∀ c ∈ digits, c.isDigit = true) ∧ Nat.ofDigitChars 10 digits 0 = n

theorem denotes_toString (n : Nat) : Denotes (toString n) n :=
  ⟨Nat.toDigits 10 n, .inl (toList_toString n), Nat.toDigits_ne_nil,
    fun _ => isDigit_of_mem_toDigits, Nat.ofDigitChars_ten_toDigits⟩

section

variable {limit : Nat} {beyond : Flaw} {cs : List Char}

/-- More digits never make a number smaller. -/
theorem le_ofDigitChars (cs : List Char) (k : Nat) : k ≤ Nat.ofDigitChars 10 cs k := by
  induction cs generalizing k with
  | nil => exact Nat.le_refl k
  | cons c cs ih =>
    have := ih (10 * k + (c.toNat - '0'.toNat))
    rw [Nat.ofDigitChars_cons]
    omega

theorem digitsWithin_eq_ok_iff {k n : Nat} (hk : k ≤ limit) :
    digitsWithin limit beyond k cs = .ok n ↔
      (∀ c ∈ cs, c.isDigit = true) ∧ Nat.ofDigitChars 10 cs k = n ∧ n ≤ limit := by
  induction cs generalizing k with
  | nil =>
    rw [digitsWithin, Except.ok.injEq]
    constructor
    · rintro rfl
      exact ⟨nofun, rfl, hk⟩
    · rintro ⟨-, rfl, -⟩
      rfl
  | cons c cs ih =>
    rw [digitsWithin, List.forall_mem_cons, Nat.ofDigitChars_cons]
    cases hdigit : c.isDigit with
    | false => exact ⟨nofun, nofun⟩
    | true =>
      rw [Bool.not_true, if_neg Bool.false_ne_true]
      dsimp only
      by_cases hnext : 10 * k + (c.toNat - '0'.toNat) ≤ limit
      · rw [if_pos hnext, ih hnext, eq_self, true_and]
      · -- the digits so far are beyond the limit already
        have hle := le_ofDigitChars cs (10 * k + (c.toNat - '0'.toNat))
        rw [if_neg hnext]
        exact ⟨nofun, fun h => by omega⟩

theorem someDigitsWithin_eq_ok_iff {n : Nat} :
    someDigitsWithin limit beyond cs = .ok n ↔
      cs ≠ [] ∧ (∀ c ∈ cs, c.isDigit = true) ∧ Nat.ofDigitChars 10 cs 0 = n ∧ n ≤ limit := by
  rw [someDigitsWithin]
  cases cs with
  | nil => exact ⟨nofun, fun h => absurd rfl h.1⟩
  | cons c cs =>
    rw [List.isEmpty_cons, if_neg Bool.false_ne_true, digitsWithin_eq_ok_iff (Nat.zero_le _)]
    exact (and_iff_right (List.cons_ne_nil c cs)).symm

end

/-! ## Texts with and without a sign -/

section

variable {s : String} {cs : List Char} {n : Nat}

theorem denotes_iff_of_plus (h : s.toList = '+' :: cs) :
    Denotes s n ↔ cs ≠ [] ∧ (∀ c ∈ cs, c.isDigit = true) ∧ Nat.ofDigitChars 10 cs 0 = n := by
  constructor
  · rintro ⟨digits, hs | hs, hne, hdigits, hvalue⟩
    · rw [← hs, h] at hdigits
      exact absurd (hdigits '+' List.mem_cons_self) (by decide)
    · obtain rfl : cs = digits := List.cons_inj_right _ |>.mp (h.symm.trans hs)
      exact ⟨hne, hdigits, hvalue⟩
  · rintro ⟨hne, hdigits, hvalue⟩
    exact ⟨cs, .inr h, hne, hdigits, hvalue⟩

theorem denotes_iff_of_digits (h : ∀ rest, s.toList ≠ '+' :: rest) :
    Denotes s n ↔ s.toList ≠ [] ∧ (∀ c ∈ s.toList, c.isDigit = true) ∧
      Nat.ofDigitChars 10 s.toList 0 = n := by
  constructor
  · rintro ⟨digits, rfl | hs, hne, hdigits, hvalue⟩
    · exact ⟨hne, hdigits, hvalue⟩
    · exact absurd hs (h digits)
  · rintro ⟨hne, hdigits, hvalue⟩
    exact ⟨s.toList, .inl rfl, hne, hdigits, hvalue⟩

theorem not_denotes_of_minus (h : s.toList = '-' :: cs) : ¬ Denotes s n := by
  rw [denotes_iff_of_digits (by rw [h]; nofun), h]
  rintro ⟨-, hdigits, -⟩
  exact absurd (hdigits '-' List.mem_cons_self) (by decide)

theorem not_denotes_of_empty (h : s.toList = []) : ¬ Denotes s n := by
  rw [denotes_iff_of_digits (by rw [h]; nofun), h]
  rintro ⟨hne, -⟩
  exact hne rfl

/-- **A text is read as a number without a sign** if and only if it denotes that number. -/
theorem uint64_eq_ok_iff {v : UInt64} : uint64 s = .ok v ↔ Denotes s v.toNat := by
  have hrange {digits : List Char} :
      (someDigitsWithin (UInt64.size - 1) .tooLarge digits).map Nat.toUInt64 = .ok v ↔
        digits ≠ [] ∧ (∀ c ∈ digits, c.isDigit = true) ∧
          Nat.ofDigitChars 10 digits 0 = v.toNat := by
    rw [map_eq_ok_iff]
    simp only [someDigitsWithin_eq_ok_iff]
    constructor
    · rintro ⟨n, ⟨hne, hdigits, hvalue, hn⟩, rfl⟩
      refine ⟨hne, hdigits, hvalue.trans ?_⟩
      rw [Nat.toUInt64, UInt64.toNat_ofNat_of_lt' (Nat.lt_of_le_pred (by decide) hn)]
    · rintro ⟨hne, hdigits, hvalue⟩
      exact ⟨v.toNat, ⟨hne, hdigits, hvalue, Nat.le_pred_of_lt v.toNat_lt⟩, UInt64.ofNat_toNat⟩
  unfold uint64
  split
  · rename_i h
    exact iff_of_false nofun (not_denotes_of_empty h)
  · rename_i cs h
    rw [hrange, denotes_iff_of_plus h]
  · rename_i hne hplus
    rw [hrange, denotes_iff_of_digits hplus]

/-- **A text is read as a positive number with a sign** if and only if it denotes that number, which
has 63 bits at most. -/
theorem int64_eq_ok_iff (hn : 0 < n) :
    int64 s = .ok (n : Int) ↔ Denotes s n ∧ n < int64Size := by
  have hrange {digits : List Char} :
      (someDigitsWithin (int64Size - 1) .tooLarge digits).map Int.ofNat = .ok (n : Int) ↔
        (digits ≠ [] ∧ (∀ c ∈ digits, c.isDigit = true) ∧ Nat.ofDigitChars 10 digits 0 = n) ∧
          n < int64Size := by
    rw [map_eq_ok_iff]
    simp only [someDigitsWithin_eq_ok_iff]
    constructor
    · rintro ⟨m, ⟨hne, hdigits, hvalue, hm⟩, hmn⟩
      obtain rfl : m = n := Int.ofNat.inj hmn
      exact ⟨⟨hne, hdigits, hvalue⟩, Nat.lt_of_le_pred (by decide) hm⟩
    · rintro ⟨⟨hne, hdigits, hvalue⟩, hsize⟩
      exact ⟨n, ⟨hne, hdigits, hvalue, Nat.le_pred_of_lt hsize⟩, rfl⟩
  unfold int64
  split
  · rename_i h
    exact iff_of_false nofun fun hdenotes => not_denotes_of_empty h hdenotes.1
  · rename_i cs h
    refine iff_of_false (fun hok => ?_) fun hdenotes => not_denotes_of_minus h hdenotes.1
    obtain ⟨m, hm, hnegative⟩ := map_eq_ok_iff.mp hok
    obtain ⟨k, -, hk⟩ := bind_eq_ok.mp hm
    obtain rfl : (k : Int) = m := Except.ok.inj hk
    omega
  · rename_i cs h
    rw [hrange, denotes_iff_of_plus h]
  · rename_i hne hminus hplus
    rw [hrange, denotes_iff_of_digits hplus]

end

end MooseHerd.Decimal
