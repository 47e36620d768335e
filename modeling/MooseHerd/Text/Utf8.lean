/-! Texts from bytes in UTF-8. The bytes are cut into characters and into faulty stretches, each as
long as it could be the start of a character; strict and lenient decoding differ only in what they
make of a faulty stretch. -/

namespace MooseHerd.Text.Utf8

/-- Reads the continuation bytes of a character, the first of which lies between `low` and `high`.
What can not continue it is left where it is. -/
def takeTail : Nat → UInt8 → UInt8 → Nat → List UInt8 → Option Char × List UInt8
  | 0, _, _, code, rest => (some (Char.ofNat code), rest)
  | _ + 1, _, _, _, [] => (none, [])
  | count + 1, low, high, code, b :: rest =>
    if low ≤ b ∧ b ≤ high then takeTail count 0x80 0xbf (64 * code + b.toNat % 64) rest
    else (none, b :: rest)

/-- The character or faulty stretch that starts with the given byte, and the bytes after it. -/
def takeChar (b : UInt8) (rest : List UInt8) : Option Char × List UInt8 :=
  if b < 0x80 then (some (Char.ofNat b.toNat), rest)
  else if b < 0xc2 then (none, rest)
  else if b < 0xe0 then takeTail 1 0x80 0xbf (b.toNat % 32) rest
  else if b = 0xe0 then takeTail 2 0xa0 0xbf 0 rest
  else if b = 0xed then takeTail 2 0x80 0x9f 13 rest
  else if b < 0xf0 then takeTail 2 0x80 0xbf (b.toNat % 16) rest
  else if b = 0xf0 then takeTail 3 0x90 0xbf 0 rest
  else if b < 0xf4 then takeTail 3 0x80 0xbf (b.toNat % 8) rest
  else if b = 0xf4 then takeTail 3 0x80 0x8f 4 rest
  else (none, rest)

theorem takeTail_length_le (count : Nat) (low high : UInt8) (code : Nat) (bytes : List UInt8) :
    (takeTail count low high code bytes).2.length ≤ bytes.length := by
  induction count generalizing low high code bytes with
  | zero => simp [takeTail]
  | succ count ih =>
    cases bytes with
    | nil => simp [takeTail]
    | cons b rest =>
      simp only [takeTail]
      split
      · exact Nat.le_succ_of_le (ih _ _ _ _)
      · simp

theorem takeChar_length_le (b : UInt8) (rest : List UInt8) :
    (takeChar b rest).2.length ≤ rest.length := by
  simp only [takeChar]
  repeat' split
  all_goals first
    | exact Nat.le_refl _
    | exact takeTail_length_le _ _ _ _ _

/-- The characters of the bytes, `none` for each faulty stretch. -/
def pieces : List UInt8 → List (Option Char)
  | [] => []
  | b :: rest => (takeChar b rest).1 :: pieces (takeChar b rest).2
termination_by bytes => bytes.length
decreasing_by exact Nat.lt_succ_of_le (takeChar_length_le b rest)

/-- The text of the bytes, if they hold no faulty stretch. -/
def decode? (bytes : List UInt8) : Option String :=
  ((pieces bytes).mapM id).map String.ofList

/-- The text of the bytes, with a replacement character for each faulty stretch. -/
def decodeLossy (bytes : List UInt8) : String :=
  String.ofList ((pieces bytes).map (·.getD '\ufffd'))

def encode (s : String) : List UInt8 := s.toUTF8.data.toList

/-- The bytes without a byte order mark at their front. -/
def dropMark : List UInt8 → List UInt8
  | 0xef :: 0xbb :: 0xbf :: rest => rest
  | bytes => bytes

end MooseHerd.Text.Utf8
