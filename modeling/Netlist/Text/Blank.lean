import Netlist.Text.Ranges

/-!
# Blanks

Which characters are white space: the property of the Unicode standard, 25 characters.
-/

namespace Netlist.Text

/-- Ranges of white space. -/
def blankRanges : Ranges :=
  [(0x9, 0xD), (0x20, 0x20), (0x85, 0x85), (0xA0, 0xA0), (0x1680, 0x1680), (0x2000, 0x200A),
   (0x2028, 0x2029), (0x202F, 0x202F), (0x205F, 0x205F), (0x3000, 0x3000)]

/-- Is the character white space? -/
def isWhite (c : Char) : Bool :=
  inRanges blankRanges c.toNat

/-- A text without the white space around it. -/
def trimmed (cs : List Char) : List Char :=
  ((cs.dropWhile isWhite).reverse.dropWhile isWhite).reverse

end Netlist.Text
