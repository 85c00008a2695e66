import StreetLinkage.Decimal.Places

/-!
# Fixed-point degrees

Coordinates are compared and indexed as whole multiples of `1e-7` degrees in 32-bit integers, so the
same input always falls into the same place. Conversion cuts off what lies beyond seven decimals,
toward zero; values that do not fit stop at the ends of the range, and no number at all counts as
zero.
-/

namespace StreetLinkage

/-- Fixed-point units in a degree. -/
def fixedFactor : Float := 1e7

/-- The whole part of a number as a 32-bit integer: cut toward zero, held within the range, and zero
for no number. -/
def truncateToInt32 (x : Float) : Int32 :=
  if x < 0 then .ofInt (-(min (-x).toUInt32.toNat (Nat.pow 2 31) : Nat))
  else .ofInt (min x.toUInt32.toNat (Nat.pow 2 31 - 1) : Nat)

/-- Degrees to fixed-point degrees. -/
def floatingToFixed (degrees : Float) : Int32 :=
  truncateToInt32 (degrees * fixedFactor)

/-- A 32-bit integer as a floating number, without loss. -/
def wholeFloat (n : Int32) : Float :=
  let magnitude := (UInt32.ofNat n.toInt.natAbs).toFloat
  if n < 0 then -magnitude else magnitude

/-- Fixed-point degrees to degrees. -/
def fixedToFloating (fixed : Int32) : Float :=
  wholeFloat fixed / fixedFactor

/-- A position in fixed-point degrees. -/
structure FixedCoord where
  lon : Int32
  lat : Int32
  deriving DecidableEq, Repr

namespace FixedCoord

/-- The position of a latitude and a longitude in degrees. -/
def ofDegrees (lat lon : Float) : FixedCoord where
  lon := floatingToFixed lon
  lat := floatingToFixed lat

/-- Longitude first, as on the axes of a plane. -/
def toList (c : FixedCoord) : List Int32 := [c.lon, c.lat]

/-- Latitude and longitude in degrees, with all seven decimals. -/
def display (c : FixedCoord) : String :=
  let lat := Decimal.withPlaces 7 (fixedToFloating c.lat)
  let lon := Decimal.withPlaces 7 (fixedToFloating c.lon)
  s!"({lat}, {lon})"

end FixedCoord

end StreetLinkage
