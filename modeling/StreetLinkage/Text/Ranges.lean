/-!
# Ranges of characters

A property of characters is given by closed ranges of code points that ascend and do not touch, so that
a look-up may stop at the first range that starts behind the character.
-/

namespace StreetLinkage.Text

/-- Closed ranges of code points, each a first and a last one. They ascend. -/
abbrev Ranges := List (Nat × Nat)

/-- Is the code point in one of the ranges? -/
def Ranges.contains : Ranges → Nat → Bool
  | [], _ => false
  | r :: rest, n => r.1 ≤ n && (n ≤ r.2 || contains rest n)

end StreetLinkage.Text
