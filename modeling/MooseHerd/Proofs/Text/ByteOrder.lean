import MooseHerd.Text.Utf8

/-! # Texts have the order of their bytes

Keys are compared character by character. In UTF-8 this is the order of the encoded bytes, so what
is in ascending order for this library is so for whoever compares bytes. -/

namespace MooseHerd.Text.Utf8

theorem encode_eq_flatMap (s : String) :
    encode s = s.toList.flatMap String.utf8EncodeChar := by
  have h : s.toUTF8 = s.toList.utf8Encode := by
    conv => lhs; rw [← String.ofList_toList (s := s)]
    exact String.toByteArray_ofList
  unfold encode
  rw [h, List.utf8Encode, List.toList_data_toByteArray]

/-- The bytes of a smaller character come first, whatever follows: the numbers of bytes do not
decrease, the first byte tells this number, and the others are digits of the code point. -/
theorem utf8EncodeChar_append_lt {c d : Char} (h : c < d) (x y : List UInt8) :
    String.utf8EncodeChar c ++ x < String.utf8EncodeChar d ++ y := by
  have hv : c.val.toNat < d.val.toNat := h
  have hd : d.val.toNat < 0x110000 := by
    have := d.valid
    unfold UInt32.isValidChar Nat.isValidChar at this
    omega
  unfold String.utf8EncodeChar
  generalize c.val.toNat = m at hv
  generalize d.val.toNat = n at hv hd
  -- the digits of a code point to the base 64
  have hm₂ : m / 64 / 64 = m / 4096 := Nat.div_div_eq_div_mul m 64 64
  have hm₃ : m / 4096 / 64 = m / 262144 := Nat.div_div_eq_div_mul m 4096 64
  have hn₂ : n / 64 / 64 = n / 4096 := Nat.div_div_eq_div_mul n 64 64
  have hn₃ : n / 4096 / 64 = n / 262144 := Nat.div_div_eq_div_mul n 4096 64
  -- one case for each number of bytes of the first character and then of the second
  dsimp only
  repeat' split
  all_goals
    simp only [List.cons_append, List.nil_append, List.cons_lt_cons_iff, UInt8.lt_iff_toNat_lt,
      ← UInt8.toNat_inj, UInt8.toNat_ofNat']
    simp (disch := omega) only [Nat.mod_eq_of_lt]
    omega

theorem utf8EncodeChar_pos (c : Char) : 0 < (String.utf8EncodeChar c).length := by
  rw [String.length_utf8EncodeChar]
  exact c.utf8Size_pos

theorem flatMap_utf8EncodeChar_lt : ∀ {cs ds : List Char}, cs < ds →
    cs.flatMap String.utf8EncodeChar < ds.flatMap String.utf8EncodeChar
  | _, [], h => absurd h (List.not_lt_nil _)
  | [], d :: ds, _ => by
    obtain ⟨b, bs, hb⟩ := List.exists_cons_of_length_pos (utf8EncodeChar_pos d)
    simp [hb]
  | c :: cs, d :: ds, h => by
    simp only [List.flatMap_cons]
    rcases List.cons_lt_cons_iff.mp h with hc | ⟨rfl, hcs⟩
    · exact utf8EncodeChar_append_lt hc _ _
    · exact List.append_left_lt (flatMap_utf8EncodeChar_lt hcs)

/-- **Encoding keeps the order of texts.** -/
theorem encode_lt_encode_iff {s t : String} : encode s < encode t ↔ s < t := by
  have hmono : ∀ {a b : String}, a < b → encode a < encode b := by
    intro a b h
    rw [encode_eq_flatMap, encode_eq_flatMap]
    exact flatMap_utf8EncodeChar_lt h
  refine ⟨fun h => ?_, hmono⟩
  apply Decidable.byContradiction
  intro hst
  rcases Std.le_iff_lt_or_eq.mp (String.not_lt.mp hst) with hlt | heq
  · exact List.lt_asymm h (hmono hlt)
  · rw [heq] at h
    exact List.lt_irrefl _ h

end MooseHerd.Text.Utf8
