import StreetLinkage.Text.Unprintable
import StreetLinkage.Text.GraphemeExtend
import StreetLinkage.Text.Ignorable

/-!
# Quoted text

Text for a developer stands between double quotes. Quotes and backslashes are escaped, the usual control
characters have short escapes, and every other character that would not show by itself is written by its
number: the unprintable ones, those that are ignorable by default, and marks that would join the character
before them. All the rest stands for itself.
-/

namespace StreetLinkage.Text

/-- A character by its number in hexadecimal. -/
def byNumber (c : Char) : List Char :=
  ['\\', 'u', '\x7b'] ++ Nat.toDigits 16 c.toNat ++ ['\x7d']

/-- Does the character show by itself? -/
def standsAlone (c : Char) : Bool :=
  isPrintable c && !isIgnorable c && !extendsGrapheme c

/-- A character between quotes. -/
def encodeChar (c : Char) : List Char :=
  match c with
  | '"' => ['\\', '"']
  | '\\' => ['\\', '\\']
  | '\n' => ['\\', 'n']
  | '\r' => ['\\', 'r']
  | '\t' => ['\\', 't']
  | '\x00' => ['\\', '0']
  | c => if standsAlone c then [c] else byNumber c

/-- The text between quotes. -/
def quoted (text : String) : String :=
  String.ofList ('"' :: text.toList.flatMap encodeChar ++ ['"'])

end StreetLinkage.Text
