import StreetLinkage.Json.Value

/-!
# Reading JSON

`read?` accepts one JSON value with nothing but blanks around it. The grammar is the strict one: no
leading zeros, no comma before a closing bracket, no raw control characters in strings, and blanks are
the space, the tab, the line feed and the carriage return.

Each reader takes the characters ahead and gives what it read and what is left. Nested values are read
with a number of steps in hand; the number of characters is always enough, since every step uses one.
-/

namespace StreetLinkage.Json

/-! ## Blanks and numerals -/

/-- Is the character a blank between tokens? -/
def isBlank (c : Char) : Bool :=
  c == ' ' || c == '\t' || c == '\n' || c == '\r'

/-- Leaves out blanks. -/
def skipBlanks (cs : List Char) : List Char :=
  cs.dropWhile isBlank

/-- The value of a decimal digit. -/
def digitValue (c : Char) : Nat := c.toNat - '0'.toNat

/-- The digits ahead. -/
def readDigits (cs : List Char) : List Nat × List Char :=
  ((cs.takeWhile Char.isDigit).map digitValue, cs.dropWhile Char.isDigit)

/-- The number that is written by decimal digits. -/
def ofDigits (digits : List Nat) : Nat :=
  digits.foldl (fun value digit => 10 * value + digit) 0

/-- The digits of a fraction, at least one. -/
def readFraction? : List Char → Option (List Nat × List Char)
  | '.' :: cs =>
      match readDigits cs with
      | ([], _) => none
      | read => some read
  | cs => some ([], cs)

/-- The digits of an exponent, at least one. -/
def readPower? (negative : Bool) (cs : List Char) : Option (Option Int × List Char) :=
  match readDigits cs with
  | ([], _) => none
  | (digits, rest) =>
      let power : Int := ofDigits digits
      some (some (if negative then -power else power), rest)

/-- An exponent, if one is ahead. -/
def readExponent? : List Char → Option (Option Int × List Char)
  | c :: cs =>
      if c == 'e' || c == 'E' then
        match cs with
        | '-' :: cs => readPower? true cs
        | '+' :: cs => readPower? false cs
        | cs => readPower? false cs
      else some (none, c :: cs)
  | [] => some (none, [])

/-- A numeral without its sign. -/
def readUnsigned? (negative : Bool) (cs : List Char) : Option (Numeral × List Char) := do
  let (whole, rest) := readDigits cs
  match whole with
  | [] => none
  | 0 :: _ :: _ => none
  | whole =>
      let (fraction, rest) ← readFraction? rest
      let (exponent, rest) ← readExponent? rest
      some (⟨negative, ofDigits whole, fraction, exponent⟩, rest)

/-- A numeral. -/
def readNumeral? : List Char → Option (Numeral × List Char)
  | '-' :: cs => readUnsigned? true cs
  | cs => readUnsigned? false cs

/-! ## Strings -/

/-- The value of a hexadecimal digit. -/
def hexValue? (c : Char) : Option Nat :=
  if c.isDigit then some (c.toNat - '0'.toNat)
  else if 'a' ≤ c && c ≤ 'f' then some (c.toNat - 'a'.toNat + 10)
  else if 'A' ≤ c && c ≤ 'F' then some (c.toNat - 'A'.toNat + 10)
  else none

/-- The 16-bit unit of four hexadecimal digits. -/
def unit? (a b c d : Char) : Option Nat := do
  let a ← hexValue? a
  let b ← hexValue? b
  let c ← hexValue? c
  let d ← hexValue? d
  return ((a * 16 + b) * 16 + c) * 16 + d

/-- The character behind a short escape. -/
def shortEscape? : Char → Option Char
  | '"' => some '"'
  | '\\' => some '\\'
  | '/' => some '/'
  | 'b' => some '\x08'
  | 'f' => some '\x0c'
  | 'n' => some '\n'
  | 'r' => some '\r'
  | 't' => some '\t'
  | _ => none

/-- The parts of a string up to its closing quote. -/
def readString? : List Char → Option (List StringPart × List Char)
  | [] => none
  | '"' :: rest => some ([], rest)
  | '\\' :: 'u' :: a :: b :: c :: d :: rest => do
      let code ← unit? a b c d
      let (parts, rest) ← readString? rest
      return (.unit code :: parts, rest)
  | '\\' :: c :: rest => do
      let c ← shortEscape? c
      let (parts, rest) ← readString? rest
      return (.char c :: parts, rest)
  | c :: rest =>
      if c.toNat < 0x20 || c == '\\' then none
      else do
        let (parts, rest) ← readString? rest
        return (.char c :: parts, rest)

/-! ## Values -/

/-- Takes a word off the front. -/
def dropWord? (word : List Char) (cs : List Char) : Option (List Char) :=
  if word.isPrefixOf cs then some (cs.drop word.length) else none

/-- A value without parts: a word or a numeral. -/
def readScalar? (cs : List Char) : Option (Value × List Char) :=
  match cs with
  | 'n' :: _ => (dropWord? ['n', 'u', 'l', 'l'] cs).map (.null, ·)
  | 't' :: _ => (dropWord? ['t', 'r', 'u', 'e'] cs).map (.bool true, ·)
  | 'f' :: _ => (dropWord? ['f', 'a', 'l', 's', 'e'] cs).map (.bool false, ·)
  | _ => (readNumeral? cs).map fun (n, rest) => (.number n, rest)

/-- The name of a member, with the colon behind it. -/
def readName? (cs : List Char) : Option (List StringPart × List Char) :=
  match skipBlanks cs with
  | '"' :: rest => do
      let (name, rest) ← readString? rest
      match skipBlanks rest with
      | ':' :: rest => return (name, rest)
      | _ => none
  | _ => none

mutual

/-- A value and the characters after it. -/
def readValue? : Nat → List Char → Option (Value × List Char)
  | 0, _ => none
  | steps + 1, cs =>
      match skipBlanks cs with
      | '"' :: rest => (readString? rest).map fun (parts, rest) => (.string parts, rest)
      | '[' :: rest =>
          match skipBlanks rest with
          | ']' :: rest => some (.array [], rest)
          | rest => (readItems? steps rest).map fun (items, rest) => (.array items, rest)
      | '\x7b' :: rest =>
          match skipBlanks rest with
          | '\x7d' :: rest => some (.object [], rest)
          | rest => (readMembers? steps rest).map fun (members, rest) => (.object members, rest)
      | rest => readScalar? rest

/-- The items of an array, at least one, and the characters after the closing bracket. -/
def readItems? : Nat → List Char → Option (List Value × List Char)
  | 0, _ => none
  | steps + 1, cs => do
      let (item, rest) ← readValue? steps cs
      match skipBlanks rest with
      | ',' :: rest =>
          let (items, rest) ← readItems? steps rest
          return (item :: items, rest)
      | ']' :: rest => return ([item], rest)
      | _ => none

/-- The members of an object, at least one, and the characters after the closing brace. -/
def readMembers? : Nat → List Char → Option (List (List StringPart × Value) × List Char)
  | 0, _ => none
  | steps + 1, cs => do
      let (name, rest) ← readName? cs
      let (value, rest) ← readValue? steps rest
      match skipBlanks rest with
      | ',' :: rest =>
          let (members, rest) ← readMembers? steps rest
          return ((name, value) :: members, rest)
      | '\x7d' :: rest => return ([(name, value)], rest)
      | _ => none

end

/-- The value of a text that holds nothing else. -/
def read? (text : String) : Option Value :=
  let cs := text.toList
  match readValue? (cs.length + 1) cs with
  | some (value, rest) => if (skipBlanks rest).isEmpty then some value else none
  | none => none

end StreetLinkage.Json
