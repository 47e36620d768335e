import MooseHerd.Proofs.Text.Utf8

/-! # Bytes that are a text

Only the bytes of a text are decoded strictly: each character that is taken from them accounts for
the bytes that it is taken from. -/

namespace MooseHerd.Text.Utf8

section

variable {low high : UInt8} {code : Nat} {bytes rest : List UInt8} {c : Char}

/-- A continuation byte that is taken lies in its range and adds a digit. -/
theorem takeTail_succ_eq_some {count : Nat}
    (h : takeTail (count + 1) low high code bytes = (some c, rest)) :
    ∃ b bs, bytes = b :: bs ∧ (low.toNat ≤ b.toNat ∧ b.toNat ≤ high.toNat) ∧
      takeTail count 0x80 0xbf (64 * code + b.toNat % 64) bs = (some c, rest) := by
  cases bytes with
  | nil => cases h
  | cons b bs =>
    rw [takeTail] at h
    split at h
    · rename_i hrange
      rw [UInt8.le_iff_toNat_le, UInt8.le_iff_toNat_le] at hrange
      exact ⟨b, bs, rfl, hrange, h⟩
    · cases h

theorem takeTail_zero_eq_some (h : takeTail 0 low high code bytes = (some c, rest)) :
    c = Char.ofNat code ∧ bytes = rest := by
  cases h
  exact ⟨rfl, rfl⟩

/-! ## One character -/

variable {b : UInt8} {n : Nat}

theorem toNat_val_ofNat (h : n < 0xd800 ∨ 0xdfff < n ∧ n < 0x110000) :
    (Char.ofNat n).val.toNat = n := by
  rw [Char.ofNat, dif_pos h]
  rfl

theorem eq_ofNat_of_toNat (h : b.toNat = n) : b = UInt8.ofNat n := by
  rw [← h, UInt8.ofNat_toNat]

theorem encode_of_takeTail_one (h : takeTail 1 0x80 0xbf (b.toNat % 32) bytes = (some c, rest))
    (hfirst : 0xc2 ≤ b.toNat ∧ b.toNat < 0xe0) :
    b :: bytes = String.utf8EncodeChar c ++ rest := by
  obtain ⟨b₁, _, rfl, hrange, h⟩ := takeTail_succ_eq_some h
  obtain ⟨rfl, rfl⟩ := takeTail_zero_eq_some h
  change 128 ≤ _ ∧ _ ≤ 191 at hrange
  have hval := toNat_val_ofNat (n := 64 * (b.toNat % 32) + b₁.toNat % 64) (by omega)
  unfold String.utf8EncodeChar
  rw [hval]
  dsimp only
  rw [if_neg (by omega), if_pos (by omega)]
  congr
  · exact eq_ofNat_of_toNat (by omega)
  · exact eq_ofNat_of_toNat (by omega)

/-- Three bytes, where the range of the second one leaves out shorter encodings and surrogates. -/
theorem encode_of_takeTail_two (h : takeTail 2 low high code bytes = (some c, rest))
    (hcode : b.toNat = code + 224 ∧ code < 16)
    (hlow : 128 ≤ low.toNat ∧ (code = 0 → 160 ≤ low.toNat))
    (hhigh : high.toNat ≤ 191 ∧ (code = 13 → high.toNat ≤ 159)) :
    b :: bytes = String.utf8EncodeChar c ++ rest := by
  obtain ⟨b₁, _, rfl, hrange, h⟩ := takeTail_succ_eq_some h
  obtain ⟨b₂, _, rfl, hrange₂, h⟩ := takeTail_succ_eq_some h
  obtain ⟨rfl, rfl⟩ := takeTail_zero_eq_some h
  change 128 ≤ _ ∧ _ ≤ 191 at hrange₂
  obtain ⟨n, hn⟩ : ∃ n, n = 64 * (64 * code + b₁.toNat % 64) + b₂.toNat % 64 := ⟨_, rfl⟩
  have hdigits : n / 64 / 64 = n / 4096 := Nat.div_div_eq_div_mul n 64 64
  have hval := toNat_val_ofNat (n := n) (by omega)
  rw [← hn]
  unfold String.utf8EncodeChar
  rw [hval]
  dsimp only
  rw [if_neg (by omega), if_neg (by omega), if_pos (by omega)]
  congr
  · exact eq_ofNat_of_toNat (by omega)
  · exact eq_ofNat_of_toNat (by omega)
  · exact eq_ofNat_of_toNat (by omega)

/-- Four bytes, where the range of the second one leaves out shorter encodings and what is beyond
the last code point. -/
theorem encode_of_takeTail_three (h : takeTail 3 low high code bytes = (some c, rest))
    (hcode : b.toNat = code + 240 ∧ code < 5)
    (hlow : 128 ≤ low.toNat ∧ (code = 0 → 144 ≤ low.toNat))
    (hhigh : high.toNat ≤ 191 ∧ (code = 4 → high.toNat ≤ 143)) :
    b :: bytes = String.utf8EncodeChar c ++ rest := by
  obtain ⟨b₁, _, rfl, hrange, h⟩ := takeTail_succ_eq_some h
  obtain ⟨b₂, _, rfl, hrange₂, h⟩ := takeTail_succ_eq_some h
  obtain ⟨b₃, _, rfl, hrange₃, h⟩ := takeTail_succ_eq_some h
  obtain ⟨rfl, rfl⟩ := takeTail_zero_eq_some h
  change 128 ≤ _ ∧ _ ≤ 191 at hrange₂ hrange₃
  obtain ⟨n, hn⟩ : ∃ n, n = 64 * (64 * (64 * code + b₁.toNat % 64) + b₂.toNat % 64) +
    b₃.toNat % 64 := ⟨_, rfl⟩
  have hdigits : n / 64 / 64 = n / 4096 := Nat.div_div_eq_div_mul n 64 64
  have hdigits' : n / 4096 / 64 = n / 262144 := Nat.div_div_eq_div_mul n 4096 64
  have hval := toNat_val_ofNat (n := n) (by omega)
  rw [← hn]
  unfold String.utf8EncodeChar
  rw [hval]
  dsimp only
  rw [if_neg (by omega), if_neg (by omega), if_neg (by omega)]
  congr
  · exact eq_ofNat_of_toNat (by omega)
  · exact eq_ofNat_of_toNat (by omega)
  · exact eq_ofNat_of_toNat (by omega)
  · exact eq_ofNat_of_toNat (by omega)

/-- The bytes of a character that is taken are its encoding, one case for each row of the table of
well-formed byte sequences. -/
theorem encode_of_takeChar (h : takeChar b bytes = (some c, rest)) :
    b :: bytes = String.utf8EncodeChar c ++ rest := by
  rw [takeChar_eq] at h
  split at h
  · cases h
    have hval := toNat_val_ofNat (n := b.toNat) (by omega)
    unfold String.utf8EncodeChar
    rw [hval]
    dsimp only
    rw [if_pos (by omega), UInt8.ofNat_toNat]
    rfl
  split at h
  · cases h
  split at h
  · exact encode_of_takeTail_one h (by omega)
  split at h
  · exact encode_of_takeTail_two h (by omega) (by decide) (by decide)
  split at h
  · exact encode_of_takeTail_two h (by omega) (by decide) (by decide)
  split at h
  · have hlow : 128 ≤ (0x80 : UInt8).toNat := by decide
    have hhigh : (0xbf : UInt8).toNat ≤ 191 := by decide
    exact encode_of_takeTail_two h (by omega) ⟨hlow, by omega⟩ ⟨hhigh, by omega⟩
  split at h
  · exact encode_of_takeTail_three h (by omega) (by decide) (by decide)
  split at h
  · have hlow : 128 ≤ (0x80 : UInt8).toNat := by decide
    have hhigh : (0xbf : UInt8).toNat ≤ 191 := by decide
    exact encode_of_takeTail_three h (by omega) ⟨hlow, by omega⟩ ⟨hhigh, by omega⟩
  split at h
  · exact encode_of_takeTail_three h (by omega) (by decide) (by decide)
  · cases h

end

/-! ## A whole text -/

theorem eq_flatMap_of_pieces {bytes : List UInt8} {cs : List Char}
    (h : pieces bytes = cs.map some) : bytes = cs.flatMap String.utf8EncodeChar := by
  induction cs generalizing bytes with
  | nil =>
    cases bytes with
    | nil => rfl
    | cons b bytes =>
      rw [pieces] at h
      cases h
  | cons c cs ih =>
    cases bytes with
    | nil =>
      rw [pieces] at h
      cases h
    | cons b bytes =>
      rcases htake : takeChar b bytes with ⟨first, rest⟩
      rw [pieces, htake, List.map_cons] at h
      obtain ⟨rfl, hrest⟩ : first = some c ∧ pieces rest = cs.map some := List.cons_eq_cons.mp h
      rw [encode_of_takeChar htake, List.flatMap_cons, ih hrest]

theorem eq_map_of_mapM {α : Type} {cs : List α} {parts : List (Option α)}
    (h : parts.mapM id = some cs) : parts = cs.map some := by
  induction parts generalizing cs with
  | nil =>
    cases h
    rfl
  | cons part parts ih =>
    rw [List.mapM_cons] at h
    obtain ⟨c, rfl, htail⟩ := Option.bind_eq_some_iff.mp h
    obtain ⟨rest, hrest, hcs⟩ := Option.bind_eq_some_iff.mp htail
    cases Option.some.inj hcs
    rw [List.map_cons, ih hrest]

/-- **Bytes are decoded if and only if they are the encoding of a text.** -/
theorem decode?_eq_some_iff {bytes : List UInt8} {s : String} :
    decode? bytes = some s ↔ bytes = encode s := by
  constructor
  · intro h
    obtain ⟨cs, hcs, rfl⟩ := Option.map_eq_some_iff.mp h
    rw [encode_eq_flatMap, String.toList_ofList]
    exact eq_flatMap_of_pieces (eq_map_of_mapM hcs)
  · rintro rfl
    exact decode?_encode s

end MooseHerd.Text.Utf8
