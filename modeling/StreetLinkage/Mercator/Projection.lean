import StreetLinkage.Decimal.Layout

/-!
# The Web Mercator projection

At a zoom level the world is a square of `256 * 2 ^ zoom` pixels on a side. Columns run east from
the antimeridian and rows run south from the northern limit of the projection. `pixelToLon` and
`pixelToLat` give the edges of a pixel, `lonToPixel` and `latToPixel` the pixel of a position; the
eastern and the southern edge of the world belong to the last column and row.

The projection of latitudes needs a tangent and an inverse hyperbolic sine, and the way back needs
their inverses. Nothing is known of those of the platform, so they are a parameter (`Trigonometry`,
`InverseTrigonometry`) of what is computed with them.
-/

namespace StreetLinkage.Mercator

/-- Pixels on a side of a tile; the world at zoom zero is one tile. -/
def tileSize : Nat := 256

/-- The highest zoom level of a pixel grid. -/
def maxZoom : UInt8 := 24

/-- The southern limit of the projection, in degrees. -/
def minLat : Float := -85.05112878

/-- The northern limit of the projection, in degrees. -/
def maxLat : Float := 85.05112878

/-- The ratio of a circle's circumference to its diameter. -/
def pi : Float := 3.141592653589793

/-- Pixels on a side of the world. -/
def worldSize (zoom : UInt8) : Nat :=
  tileSize * Nat.pow 2 zoom.toNat

/-- `worldSize` as a floating number; a power of two, hence exact. -/
def worldPixels (zoom : UInt8) : Float :=
  .ofNat (worldSize zoom)

/-- The functions that the projection takes from a mathematics library. -/
structure Trigonometry where
  /-- The tangent of an angle. -/
  tan : Float → Float
  /-- The inverse of the hyperbolic sine. -/
  asinh : Float → Float

/-- The functions of the platform. Libraries do not agree on the inverse hyperbolic sine: one that is
computed from a hypotenuse and a logarithm may differ from this one in the last place. -/
def Trigonometry.standard : Trigonometry where
  tan := Float.tan
  asinh := Float.asinh

/-- The functions that the inverse projection takes from a mathematics library. -/
structure InverseTrigonometry where
  /-- The hyperbolic sine. -/
  sinh : Float → Float
  /-- The angle of a tangent. -/
  atan : Float → Float

/-- The functions of the platform. -/
def InverseTrigonometry.standard : InverseTrigonometry where
  sinh := Float.sinh
  atan := Float.atan

/-- The reasons for which a position or a grid is refused. -/
inductive CoordError where
  | invalidLatitude (lat : Float)
  | invalidLongitude (lon : Float)
  | invalidZoom (zoom : UInt8)
  | gridTooLarge (width height : UInt32)
  | invertedBounds (low high : Float)
  deriving DecidableEq, Repr

/-- The text of a refusal. -/
def CoordError.message : CoordError → String
  | invalidLatitude lat =>
      let given := Decimal.plain lat
      let south := Decimal.plain minLat
      let north := Decimal.plain maxLat
      s!"Invalid latitude: {given} (must be between {south} and {north})"
  | invalidLongitude lon =>
      let given := Decimal.plain lon
      s!"Invalid longitude: {given} (must be between -180 and 180)"
  | invalidZoom zoom =>
      s!"Invalid zoom level: {zoom} (must be at most {maxZoom})"
  | gridTooLarge width height =>
      s!"Grid of {width}x{height} pixels is too large to index"
  | invertedBounds low high =>
      let low := Decimal.plain low
      let high := Decimal.plain high
      s!"Inverted bounds: minimum {low} is greater than maximum {high}"

/-- The longitude of the western edge of column `x`. -/
def pixelToLon (x : Float) (zoom : UInt8) : Float :=
  x / worldPixels zoom * 360 - 180

/-- The latitude of the northern edge of row `y` by the given functions: the inverse projection. -/
def pixelToLatBy (t : InverseTrigonometry) (y : Float) (zoom : UInt8) : Float :=
  let y := y / worldPixels zoom
  t.atan (t.sinh (pi * (1 - 2 * y))) * 180 / pi

/-- The latitude of the northern edge of row `y`. -/
def pixelToLat (y : Float) (zoom : UInt8) : Float :=
  pixelToLatBy .standard y zoom

/-- The longitude in the middle of column `x`. -/
def pixelCenterLon (x : UInt32) (zoom : UInt8) : Float :=
  pixelToLon (x.toFloat + 0.5) zoom

/-- The latitude in the middle of row `y` by the given functions. -/
def pixelCenterLatBy (t : InverseTrigonometry) (y : UInt32) (zoom : UInt8) : Float :=
  pixelToLatBy t (y.toFloat + 0.5) zoom

/-- The latitude in the middle of row `y`. -/
def pixelCenterLat (y : UInt32) (zoom : UInt8) : Float :=
  pixelCenterLatBy .standard y zoom

/-- The pixel of a distance from the western or northern edge of the world, at most the last one. -/
def clampPixel (distance : Float) (zoom : UInt8) : UInt32 :=
  (min distance (worldPixels zoom - 1)).toUInt32

/-- The column of a longitude. -/
def lonToPixel (lon : Float) (zoom : UInt8) : Except CoordError UInt32 :=
  if !(-180 ≤ lon && lon ≤ 180) then .error (.invalidLongitude lon)
  else if maxZoom < zoom then .error (.invalidZoom zoom)
  else .ok (clampPixel ((lon + 180) / 360 * worldPixels zoom) zoom)

/-- The row of a latitude by the given functions: the projection itself. -/
def latToPixelBy (t : Trigonometry) (lat : Float) (zoom : UInt8) : Except CoordError UInt32 :=
  if !(minLat ≤ lat && lat ≤ maxLat) then .error (.invalidLatitude lat)
  else if maxZoom < zoom then .error (.invalidZoom zoom)
  else
    let radians := lat * pi / 180
    .ok (clampPixel ((1 - t.asinh (t.tan radians) / pi) / 2 * worldPixels zoom) zoom)

/-- The row of a latitude. -/
def latToPixel (lat : Float) (zoom : UInt8) : Except CoordError UInt32 :=
  latToPixelBy .standard lat zoom

end StreetLinkage.Mercator
