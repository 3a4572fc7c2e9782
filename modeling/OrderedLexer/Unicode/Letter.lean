import OrderedLexer.Unicode.Property

/-!
# Classes of single characters

* `isWhitespace`, `isAlphabetic`, `isAlphanumeric` and `isWord` follow the properties of the same
  names.
* `isPrintable` and `isGraphemeExtend` decide what a quoted text escapes.

ASCII characters are decided without a table.
-/

namespace OrderedLexer.Unicode

/-- Whether a character has the property `White_Space`. -/
def isWhitespace (c : Char) : Bool := whiteSpace.contains c

def isAlphabetic (c : Char) : Bool :=
  if c.toNat < 0x80 then c.isAlpha else alphabetic.contains c

/-- The letters and the numbers of any kind. -/
def alphanumeric : CharSet := alphabetic.union (categories ["Nd", "Nl", "No"])

def isAlphanumeric (c : Char) : Bool :=
  if c.toNat < 0x80 then c.isAlphanum else alphanumeric.contains c

/-- Whether an ASCII character is part of a word. -/
def isAsciiWord (c : Char) : Bool := c.isAlphanum || c = '_'

/-- Whether a character is part of a word. -/
def isWord (c : Char) : Bool :=
  if c.toNat < 0x80 then isAsciiWord c else wordChars.contains c

/-- All assigned characters but controls, formats, private ones and separators. -/
def visibleChars : CharSet :=
  assigned.diff (categories ["Cc", "Cf", "Co", "Zl", "Zp", "Zs"])

/-- Whether a character is written as itself in a quoted text: a visible one or the blank. -/
def isPrintable (c : Char) : Bool :=
  if c.toNat < 0x80 then 0x20 ≤ c.toNat && c.toNat < 0x7F else visibleChars.contains c

/-- Whether a character extends the one before it. -/
def isGraphemeExtend (c : Char) : Bool :=
  0x80 ≤ c.toNat && graphemeExtend.contains c

end OrderedLexer.Unicode
