import MooseHerd.Text.Split
import MooseHerd.Text.Utf8

/-! Certificates in files: whether a file holds one at all. A certificate stands between two lines
with its name, in base 64, and is a nested record of tagged parts. What the parts say is not looked
at. -/

namespace MooseHerd.Http.Certificate

/-- The six bits that a character stands for. -/
def sextet? (c : Char) : Option Nat :=
  if 'A' ≤ c ∧ c ≤ 'Z' then some (c.toNat - 'A'.toNat)
  else if 'a' ≤ c ∧ c ≤ 'z' then some (c.toNat - 'a'.toNat + 26)
  else if '0' ≤ c ∧ c ≤ '9' then some (c.toNat - '0'.toNat + 52)
  else if c = '+' then some 62
  else if c = '/' then some 63
  else none

/-- The bytes of groups of four characters; the last group may be filled up. -/
def base64? : List Char → Option (List UInt8)
  | [] => some []
  | [a, b, '=', '='] => do
    let n := 64 * (← sextet? a) + (← sextet? b)
    return [(n / 16).toUInt8]
  | [a, b, c, '='] => do
    let n := 4096 * (← sextet? a) + 64 * (← sextet? b) + (← sextet? c)
    return [(n / 1024).toUInt8, (n / 4).toUInt8]
  | a :: b :: c :: d :: rest => do
    let n := 262144 * (← sextet? a) + 4096 * (← sextet? b) + 64 * (← sextet? c) + (← sextet? d)
    return (n / 65536).toUInt8 :: (n / 256).toUInt8 :: n.toUInt8 :: (← base64? rest)
  | _ => none

structure Part where
  tag : UInt8
  content : List UInt8

/-- The length of a content, and what follows it. Lengths from 128 on take bytes of their own. -/
def takeLength? : List UInt8 → Option (Nat × List UInt8)
  | [] => none
  | b :: rest =>
    if b < 0x80 then some (b.toNat, rest)
    else
      let count := b.toNat - 0x80
      if count = 0 ∨ count > 4 ∨ rest.length < count then none
      else some ((rest.take count).foldl (fun n b => 256 * n + b.toNat) 0, rest.drop count)

def parts? : Nat → List UInt8 → Option (List Part)
  | _, [] => some []
  | 0, _ => none
  | fuel + 1, tag :: rest => do
    let (length, rest) ← takeLength? rest
    if rest.length < length then none
    return ⟨tag, rest.take length⟩ :: (← parts? fuel (rest.drop length))

/-- Whether a part that consists of parts is complete, down to the given depth. -/
def isComplete : Nat → Part → Bool
  | 0, _ => true
  | depth + 1, part =>
    part.tag &&& 0x20 = 0 ||
      match parts? part.content.length part.content with
      | some parts => parts.all (isComplete depth)
      | none => false

/-- Whether bytes are a certificate: what is certified, the kind of signature, and the signature. -/
def isEncoded (bytes : List UInt8) : Bool :=
  match parts? 1 bytes with
  | some [⟨0x30, content⟩] =>
    match parts? 3 content with
    | some [body, kind, signature] =>
      body.tag = 0x30 && kind.tag = 0x30 && signature.tag = 0x03 &&
        isComplete 16 body && isComplete 16 kind
    | _ => false
  | _ => false

def isMarked (mark : String) (line : String) : Bool :=
  line = "-----" ++ mark ++ " CERTIFICATE-----" ||
    line = "-----" ++ mark ++ " X509 CERTIFICATE-----" ||
    line = "-----" ++ mark ++ " TRUSTED CERTIFICATE-----"

def trimEnd (line : List Char) : String :=
  String.ofList (line.reverse.dropWhile Char.isWhitespace).reverse

/-- Whether a file holds a certificate. -/
def isIn (file : List UInt8) : Bool :=
  let lines := (Text.splitOn '\n' (Text.Utf8.decodeLossy file).toList).map trimEnd
  match lines.dropWhile (!isMarked "BEGIN" ·) with
  | [] => false
  | _ :: rest =>
    let (body, after) := rest.span (!isMarked "END" ·)
    !after.isEmpty &&
      match base64? (body.flatMap String.toList) with
      | some bytes => isEncoded bytes
      | none => false

end MooseHerd.Http.Certificate
