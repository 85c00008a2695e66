/-!
# Binary values behind floating numbers

A floating number is read off its bits as a sign and an exact value `mantissa * 2 ^ exponent`. All
decimal text is computed from this reading in exact arithmetic, so no rounding of the machine enters
the digits.
-/

namespace StreetLinkage.Decimal

/-- The non-negative value `mantissa * 2 ^ exponent`. -/
structure Binary where
  mantissa : Nat
  exponent : Int
  deriving DecidableEq, Repr

/-- A non-negative quotient. The denominators in use are powers of two and of ten. -/
structure Ratio where
  numerator : Nat
  denominator : Nat
  deriving DecidableEq, Repr

/-- The value as a quotient. -/
def Binary.toRatio (v : Binary) : Ratio where
  numerator := v.mantissa * Nat.pow 2 v.exponent.toNat
  denominator := Nat.pow 2 (-v.exponent).toNat

theorem Binary.denominator_pos (v : Binary) : 0 < v.toRatio.denominator :=
  Nat.pow_pos (by decide)

/-- What the bits of a floating number stand for. -/
inductive Reading where
  | nan
  | infinite (negative : Bool)
  | finite (negative : Bool) (value : Binary)
  deriving DecidableEq, Repr

/-- Bits of the fraction. -/
def fractionBits : Nat := 52

/-- The exponent of the values whose exponent field is zero, and of the smallest step. -/
def leastExponent : Int := -1074

/-- Reads the 64 bits of a double: one bit of sign, eleven of exponent, 52 of fraction. A zero
exponent field leaves out the leading one of the mantissa, a full one marks the special values. -/
def Reading.ofBits (bits : Nat) : Reading :=
  let negative := bits / Nat.pow 2 63 % 2 == 1
  let field : Nat := bits / Nat.pow 2 fractionBits % Nat.pow 2 11
  let fraction := bits % Nat.pow 2 fractionBits
  if field = 2047 then
    if fraction = 0 then .infinite negative else .nan
  else if field = 0 then
    .finite negative ⟨fraction, leastExponent⟩
  else
    .finite negative ⟨Nat.pow 2 fractionBits + fraction, leastExponent + (field : Int) - 1⟩

/-- The reading of a floating number. -/
def Reading.ofFloat (x : Float) : Reading :=
  .ofBits x.toBits.toNat

end StreetLinkage.Decimal
