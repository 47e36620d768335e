import MooseHerd.Text.Property.GraphemeExtend
import MooseHerd.Text.Property.Unprintable

/-! Texts in quotation marks, as messages show them: what has no visible form is written as an
escape. -/

namespace MooseHerd.Text

def hexDigits (n : Nat) : List Char := Nat.toDigits 16 n

/-- The escape of a code point in braces. -/
def bracedEscape (c : Char) : List Char := '\\' :: 'u' :: '\x7b' :: (hexDigits c.toNat ++ ['\x7d'])

def quotedChar (c : Char) : List Char :=
  if c = '\x00' then ['\\', '0']
  else if c = '\t' then ['\\', 't']
  else if c = '\r' then ['\\', 'r']
  else if c = '\n' then ['\\', 'n']
  else if c = '"' ∨ c = '\\' then ['\\', c]
  else if 0x20 ≤ c.toNat ∧ c.toNat < 0x7f then [c]
  else if graphemeExtendRanges.contains c || unprintableRanges.contains c then bracedEscape c
  else [c]

def quoted (s : String) : String := String.ofList ('"' :: (s.toList.flatMap quotedChar ++ ['"']))

end MooseHerd.Text
