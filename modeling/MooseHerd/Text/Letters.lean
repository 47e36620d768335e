import MooseHerd.Text.Property.Alphabetic
import MooseHerd.Text.Property.Numeric

/-! Letters and numbers of every script. -/

namespace MooseHerd.Text

/-- Whether a character has the property `Alphabetic`; for ASCII these are the 52 letters. -/
def isAlphabetic (c : Char) : Bool :=
  if c.toNat < 0x80 then c.isAlpha else alphabeticRanges.contains c

def isNumeric (c : Char) : Bool :=
  if c.toNat < 0x80 then c.isDigit else numericRanges.contains c

def isAlphanumeric (c : Char) : Bool := isAlphabetic c || isNumeric c

end MooseHerd.Text
