import StreetLinkage.Text.Ranges

/-!
# Blanks

The characters of the white space property: tabs, line ends, the space and its relatives of other widths.
Characters without any width are no blanks.
-/

namespace StreetLinkage.Text

namespace Blank

/-- The ranges of white space. -/
def ranges : Ranges :=
  [(0x9, 0xD), (0x20, 0x20), (0x85, 0x85), (0xA0, 0xA0), (0x1680, 0x1680), (0x2000, 0x200A),
   (0x2028, 0x2029), (0x202F, 0x202F), (0x205F, 0x205F), (0x3000, 0x3000)]

end Blank

/-- Is the character a blank? -/
def isBlank (c : Char) : Bool :=
  Blank.ranges.contains c.toNat

/-- A text without the blanks at its ends. -/
def trim (cs : List Char) : List Char :=
  ((cs.dropWhile isBlank).reverse.dropWhile isBlank).reverse

end StreetLinkage.Text
