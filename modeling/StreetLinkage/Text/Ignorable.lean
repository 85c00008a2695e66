import StreetLinkage.Text.Ranges

/-!
# Characters that may be left out of sight

A character is ignorable by default if it shows nothing where it is not supported: joiners, direction marks,
variation selectors, and the fillers that stand in for a missing part of a syllable. The ranges are those
of Unicode 17; many of these characters are letters or unassigned.
-/

namespace StreetLinkage.Text

namespace Ignorable

/-- The ranges of characters that are ignorable by default. -/
def ranges : Ranges :=
  [(0xAD, 0xAD), (0x34F, 0x34F), (0x61C, 0x61C), (0x115F, 0x1160), (0x17B4, 0x17B5),
   (0x180B, 0x180F), (0x200B, 0x200F), (0x202A, 0x202E), (0x2060, 0x206F), (0x3164, 0x3164),
   (0xFE00, 0xFE0F), (0xFEFF, 0xFEFF), (0xFFA0, 0xFFA0), (0xFFF0, 0xFFF8), (0x1BCA0, 0x1BCA3),
   (0x1D173, 0x1D17A), (0xE0000, 0xE0FFF)]

end Ignorable

/-- Is the character ignorable by default? -/
def isIgnorable (c : Char) : Bool :=
  Ignorable.ranges.contains c.toNat

end StreetLinkage.Text
