/-!
# JSON values

A JSON text is read into a tree that keeps numerals and strings as they were written. What a numeral
or a string means is decided by who asks for it: a whole number (`Numeral.toNat?`), a floating number
(`Numeral.toFloat`), a text (`decodeParts`). A value that nobody asks for is therefore only checked for
its form, and members of an object keep their order and their repetitions.
-/

namespace StreetLinkage.Json

/-- A number as it is written. -/
structure Numeral where
  negative : Bool := false
  /-- The digits before the point. -/
  whole : Nat
  /-- The digits after the point; none without a point. -/
  fraction : List Nat := []
  /-- The exponent, if one is written. -/
  exponent : Option Int := none
  deriving DecidableEq, Repr

namespace Numeral

/-- The natural number that is written without sign, point or exponent. -/
def toNat? (n : Numeral) : Option Nat :=
  if n.negative || !n.fraction.isEmpty || n.exponent.isSome then none else some n.whole

/-- The integer that is written without point or exponent. -/
def toInt? (n : Numeral) : Option Int :=
  if !n.fraction.isEmpty || n.exponent.isSome then none
  else some (if n.negative then -n.whole else n.whole)

/-- The nearest floating number. -/
def toFloat (n : Numeral) : Float :=
  let digits := n.fraction.foldl (fun value digit => 10 * value + digit) n.whole
  let exponent := n.exponent.getD 0 - n.fraction.length
  let magnitude := Float.ofScientific digits (decide (exponent < 0)) exponent.natAbs
  if n.negative then -magnitude else magnitude

end Numeral

/-- A part of a string between quotes. -/
inductive StringPart where
  /-- A character, written as itself or by a short escape. -/
  | char (c : Char)
  /-- A 16-bit unit, written by its four hexadecimal digits. -/
  | unit (code : Nat)
  deriving DecidableEq, Repr

/-- Is the unit the first half of a pair? -/
def isHighHalf (code : Nat) : Bool := 0xD800 ≤ code && code < 0xDC00

/-- Is the unit the second half of a pair? -/
def isLowHalf (code : Nat) : Bool := 0xDC00 ≤ code && code < 0xE000

/-- The characters of a string. A half of a pair without the other half stands for nothing. -/
def decodeParts : List StringPart → Option (List Char)
  | [] => some []
  | .char c :: rest => (decodeParts rest).map (c :: ·)
  | .unit code :: rest =>
      if isHighHalf code then
        match rest with
        | .unit low :: rest =>
            if isLowHalf low then
              (decodeParts rest).map
                (Char.ofNat (0x10000 + (code - 0xD800) * 0x400 + (low - 0xDC00)) :: ·)
            else none
        | _ => none
      else if isLowHalf code then none
      else (decodeParts rest).map (Char.ofNat code :: ·)

/-- A JSON value. -/
inductive Value where
  | null
  | bool (value : Bool)
  | number (value : Numeral)
  | string (parts : List StringPart)
  | array (items : List Value)
  | object (members : List (List StringPart × Value))
  deriving Repr

namespace Value

/-- The text of a string. -/
def text? : Value → Option String
  | string parts => (decodeParts parts).map String.ofList
  | _ => none

/-- The natural number of a numeral. -/
def nat? : Value → Option Nat
  | number n => n.toNat?
  | _ => none

/-- The integer of a numeral. -/
def int? : Value → Option Int
  | number n => n.toInt?
  | _ => none

/-- The members of an object under their decoded names; nothing if a name stands for no text. -/
def members? : Value → Option (List (String × Value))
  | object members => members.mapM fun (name, value) =>
      (decodeParts name).map fun cs => (String.ofList cs, value)
  | _ => none

/-- The items of an array. -/
def items? : Value → Option (List Value)
  | array items => some items
  | _ => none

/-- The name of a choice without content: a string, or an object whose only member is null. -/
def choice? : Value → Option String
  | string parts => (decodeParts parts).map String.ofList
  | object [(name, null)] => (decodeParts name).map String.ofList
  | _ => none

end Value

end StreetLinkage.Json
