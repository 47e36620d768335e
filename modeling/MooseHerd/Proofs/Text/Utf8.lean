import MooseHerd.Proofs.Text.ByteOrder

/-! # Texts survive their encoding

The bytes of a text are cut into its characters again. -/

namespace MooseHerd.Text.Utf8

/-! ## Continuation bytes

They carry the last digits of a code point to the base 64. -/

section

variable {low high : UInt8} (code n : Nat) (rest : List UInt8)

theorem toNat_continuation : (UInt8.ofNat (n % 64 + 128)).toNat = n % 64 + 128 := by
  rw [UInt8.toNat_ofNat']
  omega

theorem takeTail_continuation (count : Nat)
    (h : low.toNat ≤ n % 64 + 128 ∧ n % 64 + 128 ≤ high.toNat) :
    takeTail (count + 1) low high code (UInt8.ofNat (n % 64 + 128) :: rest) =
      takeTail count 0x80 0xbf (64 * code + n % 64) rest := by
  have hn := toNat_continuation n
  rw [takeTail, if_pos (by rw [UInt8.le_iff_toNat_le, UInt8.le_iff_toNat_le, hn]; exact h), hn]
  congr 1
  omega

theorem takeTail_one (h : low.toNat ≤ n % 64 + 128 ∧ n % 64 + 128 ≤ high.toNat) :
    takeTail 1 low high code (UInt8.ofNat (n % 64 + 128) :: rest) =
      (some (Char.ofNat (64 * code + n % 64)), rest) := by
  rw [takeTail_continuation code n rest 0 h]
  rfl

/-- Every continuation byte but the first is of the widest range. -/
theorem continuation_bounds :
    (0x80 : UInt8).toNat ≤ n % 64 + 128 ∧ n % 64 + 128 ≤ (0xbf : UInt8).toNat := by
  change 128 ≤ n % 64 + 128 ∧ n % 64 + 128 ≤ 191
  omega

theorem takeTail_two (h : low.toNat ≤ n / 64 % 64 + 128 ∧ n / 64 % 64 + 128 ≤ high.toNat) :
    takeTail 2 low high code
        (UInt8.ofNat (n / 64 % 64 + 128) :: UInt8.ofNat (n % 64 + 128) :: rest) =
      (some (Char.ofNat (64 * (64 * code + n / 64 % 64) + n % 64)), rest) := by
  rw [takeTail_continuation code (n / 64) _ 1 h, takeTail_one _ n rest (continuation_bounds n)]

theorem takeTail_three (h : low.toNat ≤ n / 4096 % 64 + 128 ∧ n / 4096 % 64 + 128 ≤ high.toNat) :
    takeTail 3 low high code
        (UInt8.ofNat (n / 4096 % 64 + 128) :: UInt8.ofNat (n / 64 % 64 + 128) ::
          UInt8.ofNat (n % 64 + 128) :: rest) =
      (some (Char.ofNat (64 * (64 * (64 * code + n / 4096 % 64) + n / 64 % 64) + n % 64)),
        rest) := by
  rw [takeTail_continuation code (n / 4096) _ 2 h,
    takeTail_two _ n rest (continuation_bounds (n / 64))]

end

/-! ## First bytes

They tell the number of bytes and the range of the second one. -/

theorem takeChar_eq (b : UInt8) (rest : List UInt8) : takeChar b rest =
    if b.toNat < 0x80 then (some (Char.ofNat b.toNat), rest)
    else if b.toNat < 0xc2 then (none, rest)
    else if b.toNat < 0xe0 then takeTail 1 0x80 0xbf (b.toNat % 32) rest
    else if b.toNat = 0xe0 then takeTail 2 0xa0 0xbf 0 rest
    else if b.toNat = 0xed then takeTail 2 0x80 0x9f 13 rest
    else if b.toNat < 0xf0 then takeTail 2 0x80 0xbf (b.toNat % 16) rest
    else if b.toNat = 0xf0 then takeTail 3 0x90 0xbf 0 rest
    else if b.toNat < 0xf4 then takeTail 3 0x80 0xbf (b.toNat % 8) rest
    else if b.toNat = 0xf4 then takeTail 3 0x80 0x8f 4 rest
    else (none, rest) := by
  simp only [takeChar, UInt8.lt_iff_toNat_lt, ← UInt8.toNat_inj]
  rfl

/-! ## Characters -/

/-- The bytes of a character are taken as this character, one case for each row of the table of
well-formed byte sequences. -/
theorem takeChar_utf8EncodeChar (c : Char) (rest : List UInt8) :
    ∃ b bs, String.utf8EncodeChar c = b :: bs ∧ takeChar b (bs ++ rest) = (some c, rest) := by
  obtain ⟨n, hn⟩ : ∃ n, n = c.val.toNat := ⟨_, rfl⟩
  have hc : Char.ofNat n = c := by
    rw [hn]
    exact Char.ofNat_toNat c
  have hvalid : n < 0xd800 ∨ 0xdfff < n ∧ n < 0x110000 := by
    rw [hn]
    exact c.valid
  -- the digits of a code point to the base 64
  have h2 : n / 64 / 64 = n / 4096 := Nat.div_div_eq_div_mul n 64 64
  have h3 : n / 4096 / 64 = n / 262144 := Nat.div_div_eq_div_mul n 4096 64
  unfold String.utf8EncodeChar
  rw [← hn]
  dsimp only
  split
  · rename_i h
    have hb : (UInt8.ofNat n).toNat = n := by rw [UInt8.toNat_ofNat']; omega
    refine ⟨_, _, rfl, ?_⟩
    rw [takeChar_eq, hb, if_pos (by omega), hc]
    rfl
  split
  · have hb : (UInt8.ofNat (n / 64 % 32 + 192)).toNat = n / 64 % 32 + 192 := by
      rw [UInt8.toNat_ofNat']
      omega
    refine ⟨_, _, rfl, ?_⟩
    rw [takeChar_eq, hb, if_neg (by omega), if_neg (by omega), if_pos (by omega)]
    refine (takeTail_one _ n rest (continuation_bounds n)).trans ?_
    rw [← hc]
    congr 3
    omega
  split
  · have hb : (UInt8.ofNat (n / 4096 % 16 + 224)).toNat = n / 4096 % 16 + 224 := by
      rw [UInt8.toNat_ofNat']
      omega
    refine ⟨_, _, rfl, ?_⟩
    rw [takeChar_eq, hb, if_neg (by omega), if_neg (by omega), if_neg (by omega)]
    split
    · refine (takeTail_two _ n rest ⟨show 160 ≤ _ by omega, show _ ≤ 191 by omega⟩).trans ?_
      rw [← hc]
      congr 3
      omega
    split
    · refine (takeTail_two _ n rest ⟨show 128 ≤ _ by omega, show _ ≤ 159 by omega⟩).trans ?_
      rw [← hc]
      congr 3
      omega
    · rw [if_pos (by omega)]
      refine (takeTail_two _ n rest (continuation_bounds (n / 64))).trans ?_
      rw [← hc]
      congr 3
      omega
  · have hb : (UInt8.ofNat (n / 262144 % 8 + 240)).toNat = n / 262144 % 8 + 240 := by
      rw [UInt8.toNat_ofNat']
      omega
    refine ⟨_, _, rfl, ?_⟩
    rw [takeChar_eq, hb, if_neg (by omega), if_neg (by omega), if_neg (by omega),
      if_neg (by omega), if_neg (by omega), if_neg (by omega)]
    split
    · refine (takeTail_three _ n rest ⟨show 144 ≤ _ by omega, show _ ≤ 191 by omega⟩).trans ?_
      rw [← hc]
      congr 3
      omega
    split
    · refine (takeTail_three _ n rest (continuation_bounds (n / 4096))).trans ?_
      rw [← hc]
      congr 3
      omega
    · rw [if_pos (by omega)]
      refine (takeTail_three _ n rest ⟨show 128 ≤ _ by omega, show _ ≤ 143 by omega⟩).trans ?_
      rw [← hc]
      congr 3
      omega

theorem pieces_flatMap (cs : List Char) :
    pieces (cs.flatMap String.utf8EncodeChar) = cs.map some := by
  induction cs with
  | nil => rw [List.flatMap_nil, pieces, List.map_nil]
  | cons c cs ih =>
    obtain ⟨b, bs, hbytes, htake⟩ := takeChar_utf8EncodeChar c (cs.flatMap String.utf8EncodeChar)
    rw [List.flatMap_cons, hbytes, List.cons_append, pieces, htake, ih, List.map_cons]

/-- **A text is decoded from its bytes.** -/
theorem decode?_encode (s : String) : decode? (encode s) = some s := by
  have hchars : (s.toList.map some).mapM id = some s.toList := by
    rw [List.mapM_map]
    exact (@List.mapM_pure Option _ _ _ _ s.toList fun c => c).trans
      (congrArg some (List.map_id' _))
  rw [decode?, encode_eq_flatMap, pieces_flatMap, hchars, Option.map_some, String.ofList_toList]

end MooseHerd.Text.Utf8
