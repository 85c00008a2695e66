import StreetLinkage.Decimal.Binary

/-!
# Shortest decimals

The decimal with the fewest digits among those that round to a given binary value, and of these the
one nearest to it; a tie goes to the larger.

Every real number closer to `m * 2 ^ q` than to its neighbours rounds to it, and the two ends of that
interval do so exactly when `m` is even. For one digit, two digits and so on, the two neighbours of the
value on the decimal grid of that many digits are tested: if any point of a grid lies in the
interval, so does one of these two. Seventeen digits always suffice.
-/

namespace StreetLinkage.Decimal

/-- The non-negative decimal `digits * 10 ^ exponent`. -/
structure Digits where
  digits : Nat
  exponent : Int
  deriving DecidableEq, Repr

/-- The interval of numbers that round to a binary value, over one denominator. -/
structure Interval where
  low : Nat
  value : Nat
  high : Nat
  denominator : Nat
  /-- Whether the two ends belong to the interval. -/
  closed : Bool
  deriving DecidableEq, Repr

/-- The rounding interval, counted in quarters of the unit of the last binary place. Below a power of
two the neighbour is half as far away, except at the least exponent. -/
def Binary.interval (v : Binary) : Interval :=
  let scale := Nat.pow 2 v.exponent.toNat
  let narrow := v.mantissa = Nat.pow 2 fractionBits ∧ leastExponent < v.exponent
  { low := (4 * v.mantissa - (if narrow then 1 else 2)) * scale
    value := 4 * v.mantissa * scale
    high := (4 * v.mantissa + 2) * scale
    denominator := 4 * Nat.pow 2 (-v.exponent).toNat
    closed := v.mantissa % 2 == 0 }

/-- `n * 10 ^ s` as a quotient. -/
def Digits.toRatio (d : Digits) : Ratio where
  numerator := d.digits * Nat.pow 10 d.exponent.toNat
  denominator := Nat.pow 10 (-d.exponent).toNat

/-- Does the decimal round to the value of the interval? -/
def Interval.contains (i : Interval) (d : Digits) : Bool :=
  let r := d.toRatio
  let point := r.numerator * i.denominator
  if i.closed then i.low * r.denominator ≤ point && point ≤ i.high * r.denominator
  else i.low * r.denominator < point && point < i.high * r.denominator

/-- The largest point of the grid `10 ^ exponent` that is not above the value. -/
def Interval.below (i : Interval) (exponent : Int) : Digits where
  digits := i.value * Nat.pow 10 (-exponent).toNat / (i.denominator * Nat.pow 10 exponent.toNat)
  exponent := exponent

/-- The next point of the same grid. -/
def Digits.next (d : Digits) : Digits :=
  { d with digits := d.digits + 1 }

/-- Is the value nearer to `d` than to the next point of its grid? -/
def Interval.nearer (i : Interval) (d : Digits) : Bool :=
  2 * i.value * Nat.pow 10 (-d.exponent).toNat <
    (2 * d.digits + 1) * Nat.pow 10 d.exponent.toNat * i.denominator

/-- The point of the grid `10 ^ exponent` that stands for the value, if one lies in the interval. -/
def Interval.onGrid? (i : Interval) (exponent : Int) : Option Digits :=
  let below := i.below exponent
  match i.contains below, i.contains below.next with
  | true, true => some (if i.nearer below then below else below.next)
  | true, false => some below
  | false, true => some below.next
  | false, false => none

/-- The number of digits of `n`, at least one. -/
def digitCount (n : Nat) : Nat :=
  (Nat.toDigits 10 n).length

/-- The least `steps` with `denominator ≤ numerator * 10 ^ steps`, if it is at most `fuel`. -/
def stepsToOne (numerator denominator : Nat) : Nat → Nat
  | 0 => 0
  | fuel + 1 =>
      if denominator ≤ numerator then 0
      else stepsToOne (numerator * 10) denominator fuel + 1

/-- The exponent `k` with `10 ^ (k - 1) ≤ value < 10 ^ k`. -/
def Interval.magnitude (i : Interval) : Int :=
  if i.denominator ≤ i.value then digitCount (i.value / i.denominator)
  else 1 - (stepsToOne i.value i.denominator 400 : Int)

/-- The longest decimal that is ever needed. -/
def maxDigits : Nat := 17

/-- The exact decimal of a binary value. -/
def Binary.exact (v : Binary) : Digits where
  digits := v.mantissa * Nat.pow 2 v.exponent.toNat * Nat.pow 5 (-v.exponent).toNat
  exponent := -((-v.exponent).toNat : Int)

/-- Moves zeros at the end of the digits into the exponent. -/
def Digits.strip : Nat → Digits → Digits
  | 0, d => d
  | fuel + 1, d =>
      if d.digits ≠ 0 ∧ d.digits % 10 = 0 then strip fuel ⟨d.digits / 10, d.exponent + 1⟩ else d

/-- The shortest decimal that reads back as `v`, without zeros at its end. -/
def Binary.shortest (v : Binary) : Digits :=
  if v.mantissa = 0 then ⟨0, 0⟩
  else
    let i := v.interval
    let k := i.magnitude
    let found := (List.range maxDigits).findSome? fun n => i.onGrid? (k - (n + 1 : Nat))
    (found.getD v.exact).strip maxDigits

end StreetLinkage.Decimal
