import MooseHerd.Http.ContentType
import MooseHerd.Text.Utf8

/-! Texts from the bytes of an answer. The encoding is the one that the type of the content names,
unless the bytes begin with the mark of another one. -/

namespace MooseHerd.Http

inductive Charset where
  | utf8
  | utf16 (bigEndian : Bool)
  | windows1252
  deriving Repr, BEq, DecidableEq

namespace Charset

def labels : List (Charset × List String) := [
  (utf8, ["utf-8", "utf8", "unicode-1-1-utf-8", "unicode11utf8", "unicode20utf8",
    "x-unicode20utf8"]),
  (utf16 false, ["utf-16le", "utf-16", "csunicode", "iso-10646-ucs-2", "ucs-2", "unicode",
    "unicodefeff"]),
  (utf16 true, ["utf-16be", "unicodefffe"]),
  (windows1252, ["windows-1252", "ansi_x3.4-1968", "ascii", "cp1252", "cp819", "csisolatin1",
    "ibm819", "iso-8859-1", "iso-ir-100", "iso8859-1", "iso88591", "iso_8859-1",
    "iso_8859-1:1987", "l1", "latin1", "us-ascii", "x-cp1252"])]

def isSpace (c : Char) : Bool := c = ' ' || c = '\t' || c = '\n' || c = '\x0c' || c = '\r'

/-- The encoding with a name, in any case of letters. Every other name, be it that of a further
encoding, counts as UTF-8. -/
def named (label : String) : Charset :=
  let label := ((label.toList.dropWhile isSpace).reverse.dropWhile isSpace).reverse
  let label := String.ofList (label.map Char.toLower)
  match labels.find? fun (_, names) => label ∈ names with
  | some (charset, _) => charset
  | none => utf8

/-- The encoding that the type of a content names. -/
def ofContentType (contentType : Option String) : Charset :=
  match (contentType.bind ContentType.parse?).bind (·.parameter? "charset") with
  | some label => named label
  | none => utf8

/-- The characters for the bytes 0x80 to 0x9f. -/
def windows1252High : List Nat := [
  0x20ac, 0x81, 0x201a, 0x192, 0x201e, 0x2026, 0x2020, 0x2021, 0x2c6, 0x2030, 0x160, 0x2039, 0x152,
  0x8d, 0x17d, 0x8f, 0x90, 0x2018, 0x2019, 0x201c, 0x201d, 0x2022, 0x2013, 0x2014, 0x2dc, 0x2122,
  0x161, 0x203a, 0x153, 0x9d, 0x17e, 0x178]

def windows1252Char (b : UInt8) : Char :=
  if 0x80 ≤ b ∧ b ≤ 0x9f then
    Char.ofNat (windows1252High.getD (b.toNat - 0x80) 0xfffd)
  else Char.ofNat b.toNat

/-- The words of two bytes each; a byte left over is no word. -/
def words (bigEndian : Bool) : List UInt8 → List (Option Nat)
  | a :: b :: rest =>
    some (if bigEndian then 256 * a.toNat + b.toNat else a.toNat + 256 * b.toNat) ::
      words bigEndian rest
  | [_] => [none]
  | [] => []

/-- The characters of words. Halves of a pair that stand alone are replaced, and what is left over
at the end. -/
def ofWords : List (Option Nat) → List Char
  | [some h, none] => if 0xd800 ≤ h ∧ h < 0xdc00 then ['\ufffd'] else
    [if 0xdc00 ≤ h ∧ h < 0xe000 then '\ufffd' else Char.ofNat h, '\ufffd']
  | some h :: some l :: rest =>
    if 0xd800 ≤ h ∧ h < 0xdc00 ∧ 0xdc00 ≤ l ∧ l < 0xe000 then
      Char.ofNat (0x10000 + 1024 * (h - 0xd800) + (l - 0xdc00)) :: ofWords rest
    else
      (if 0xd800 ≤ h ∧ h < 0xe000 then '\ufffd' else Char.ofNat h) :: ofWords (some l :: rest)
  | some h :: rest =>
    (if 0xd800 ≤ h ∧ h < 0xe000 then '\ufffd' else Char.ofNat h) :: ofWords rest
  | none :: rest => '\ufffd' :: ofWords rest
  | [] => []

def decodeAs : Charset → List UInt8 → String
  | utf8, bytes => Text.Utf8.decodeLossy bytes
  | utf16 bigEndian, bytes => String.ofList (ofWords (words bigEndian bytes))
  | windows1252, bytes => String.ofList (bytes.map windows1252Char)

/-- The text of bytes. A mark at the front tells the encoding and does not belong to the text. -/
def decode (charset : Charset) : List UInt8 → String
  | 0xef :: 0xbb :: 0xbf :: rest => decodeAs utf8 rest
  | 0xff :: 0xfe :: rest => decodeAs (utf16 false) rest
  | 0xfe :: 0xff :: rest => decodeAs (utf16 true) rest
  | bytes => decodeAs charset bytes

end Charset

end MooseHerd.Http
