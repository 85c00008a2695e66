import StreetLinkage.Fault
import StreetLinkage.Mercator.Projection

/-!
# Pixel grids

A grid is a rectangular block of pixels at one zoom level. Its points are the centres of the pixels,
numbered row by row from the north-west, and are computed from their number.

Design points:

* the type holds only grids that lie inside the world, so `PixelGrid.new` is the one place where a
  block is refused;
* the test of `new` and the number of points are computed in 64-bit words, as pixel numbers are
  32-bit words; `toNat_add_toUInt64` and `toNat_mul_toUInt64` say that these words never overflow;
* `row` and `column` take any number: past the last point they give a pixel south of the grid, until
  the sum no longer fits, and in a grid without columns there is no row at all; for the points of the
  grid both are there (`exists_row`, `exists_column`).
-/

namespace StreetLinkage.Mercator

/-! ## Sums and products of 32-bit words in 64 bits -/

theorem toNat_add_toUInt64 (a b : UInt32) :
    (a.toUInt64 + b.toUInt64).toNat = a.toNat + b.toNat := by
  have ha := a.toNat_lt
  have hb := b.toNat_lt
  rw [UInt64.toNat_add, UInt32.toNat_toUInt64, UInt32.toNat_toUInt64]
  omega

theorem toNat_mul_toUInt64 (a b : UInt32) :
    (a.toUInt64 * b.toUInt64).toNat = a.toNat * b.toNat := by
  have ha := a.toNat_lt
  have hb := b.toNat_lt
  rw [UInt64.toNat_mul, UInt32.toNat_toUInt64, UInt32.toNat_toUInt64]
  refine Nat.mod_eq_of_lt ?_
  calc a.toNat * b.toNat ≤ (2 ^ 32 - 1) * (2 ^ 32 - 1) := Nat.mul_le_mul (by omega) (by omega)
    _ < 2 ^ 64 := by decide

/-- Pixels on a side of the world, as a 64-bit word. -/
def worldWord (zoom : UInt8) : UInt64 :=
  UInt64.ofNat tileSize * UInt64.ofNat (Nat.pow 2 zoom.toNat)

theorem toNat_worldWord {zoom : UInt8} (h : zoom ≤ maxZoom) :
    (worldWord zoom).toNat = worldSize zoom := by
  have hz : zoom.toNat ≤ 24 := UInt8.le_iff_toNat_le.mp h
  have hp : Nat.pow 2 zoom.toNat ≤ 2 ^ 24 := Nat.pow_le_pow_right (by decide) hz
  have hw : tileSize * Nat.pow 2 zoom.toNat ≤ tileSize * 2 ^ 24 := Nat.mul_le_mul_left _ hp
  unfold worldWord worldSize
  rw [UInt64.toNat_mul, UInt64.toNat_ofNat_of_lt' (by decide),
    UInt64.toNat_ofNat_of_lt' (Nat.lt_of_le_of_lt hp (by decide))]
  exact Nat.mod_eq_of_lt (Nat.lt_of_le_of_lt hw (by decide))

/-! ## Grids -/

/-- A block of pixels inside the world. -/
structure PixelGrid where
  zoom : UInt8
  /-- The first column. -/
  west : UInt32
  /-- The first row. -/
  north : UInt32
  width : UInt32
  height : UInt32
  zoom_le : zoom ≤ maxZoom
  east_le : west.toNat + width.toNat ≤ worldSize zoom
  south_le : north.toNat + height.toNat ≤ worldSize zoom
  deriving DecidableEq, Repr

/-- Why there is no grid: the request is refused, or its size does not fit a word. -/
inductive GridError where
  | refused (reason : CoordError)
  | fault (fault : Fault)
  deriving DecidableEq, Repr

namespace PixelGrid

/-- Does a run of `length` pixels from `start` end inside the world? -/
def fits (zoom : UInt8) (start length : UInt32) : Bool :=
  start.toUInt64 + length.toUInt64 ≤ worldWord zoom

theorem fits_iff {zoom : UInt8} (h : zoom ≤ maxZoom) {start length : UInt32} :
    fits zoom start length = true ↔ start.toNat + length.toNat ≤ worldSize zoom := by
  unfold fits
  rw [decide_eq_true_iff, UInt64.le_iff_toNat_le, toNat_add_toUInt64, toNat_worldWord h]

/-- Can all points of a block be numbered in a 64-bit word? -/
def countable (width height : UInt32) : Bool :=
  width.toUInt64.toNat * height.toUInt64.toNat < UInt64.size

/-- The grid of `width` columns from `west` and `height` rows from `north`. -/
def new (zoom : UInt8) (west north width height : UInt32) : Except CoordError PixelGrid :=
  if hz : zoom ≤ maxZoom then
    if h : (fits zoom west width ∧ fits zoom north height) ∧ countable width height then
      .ok ⟨zoom, west, north, width, height, hz, (fits_iff hz).mp h.1.1, (fits_iff hz).mp h.1.2⟩
    else .error (.gridTooLarge width height)
  else .error (.invalidZoom zoom)

/-- The number of pixels from `first` to `last`, both included. -/
def span (first last : UInt32) : Except Fault UInt32 := do
  Word.add (← Word.sub last first) 1

/-- The smallest grid that covers the bounds, given in degrees, by the given functions. Rows run
south, so the northern bound gives the first row. -/
def coveringBy (t : Trigonometry) (zoom : UInt8) (minLat minLon maxLat maxLon : Float) :
    Except GridError PixelGrid := do
  if maxLat < minLat then throw (.refused (.invertedBounds minLat maxLat))
  if maxLon < minLon then throw (.refused (.invertedBounds minLon maxLon))
  let west ← (lonToPixel minLon zoom).mapError .refused
  let east ← (lonToPixel maxLon zoom).mapError .refused
  let north ← (latToPixelBy t maxLat zoom).mapError .refused
  let south ← (latToPixelBy t minLat zoom).mapError .refused
  let width ← (span west east).mapError .fault
  let height ← (span north south).mapError .fault
  (new zoom west north width height).mapError .refused

/-- The smallest grid that covers the bounds, given in degrees. -/
def covering (zoom : UInt8) (minLat minLon maxLat maxLon : Float) : Except GridError PixelGrid :=
  coveringBy .standard zoom minLat minLon maxLat maxLon

/-- The number of points. -/
def featureCount (g : PixelGrid) : Nat :=
  (g.width.toUInt64 * g.height.toUInt64).toNat

/-- The row of a point: whole rows before it, counted in a word from the first row. -/
def row (g : PixelGrid) (index : Nat) : Except Fault UInt32 :=
  if g.width = 0 then .error .divideByZero
  else Word.add g.north (.ofNat (index / g.width.toNat))

/-- The column of a point. -/
def column (g : PixelGrid) (index : Nat) : Except Fault UInt32 :=
  if g.width = 0 then .error .remainderByZero
  else Word.add g.west (.ofNat (index % g.width.toNat))

/-- The latitude of a point by the given functions. -/
def latBy (t : InverseTrigonometry) (g : PixelGrid) (index : Nat) : Except Fault Float :=
  (g.row index).map (pixelCenterLatBy t · g.zoom)

/-- The latitude of a point. -/
def lat (g : PixelGrid) (index : Nat) : Except Fault Float :=
  g.latBy .standard index

/-- The longitude of a point. -/
def lon (g : PixelGrid) (index : Nat) : Except Fault Float :=
  (g.column index).map (pixelCenterLon · g.zoom)

/-! ## Rows and columns of the points -/

/-- The side of the world fits a 32-bit word, up to its last value. -/
theorem worldSize_le {zoom : UInt8} (h : zoom ≤ maxZoom) : worldSize zoom ≤ UInt32.size := by
  have hp : Nat.pow 2 zoom.toNat ≤ 2 ^ 24 :=
    Nat.pow_le_pow_right (by decide) (UInt8.le_iff_toNat_le.mp h)
  exact Nat.mul_le_mul_left tileSize hp

theorem featureCount_eq (g : PixelGrid) : g.featureCount = g.width.toNat * g.height.toNat :=
  toNat_mul_toUInt64 g.width g.height

theorem width_ne_zero {g : PixelGrid} {index : Nat} (h : index < g.featureCount) : g.width ≠ 0 := by
  rintro hzero
  rw [featureCount_eq, hzero, UInt32.toNat_zero, Nat.zero_mul] at h
  exact Nat.not_lt_zero index h

/-- A point of the grid has a row in the grid. -/
theorem exists_row {g : PixelGrid} {index : Nat} (h : index < g.featureCount) :
    ∃ y, g.row index = .ok y ∧ y.toNat = g.north.toNat + index / g.width.toNat := by
  have hrows : index / g.width.toNat < g.height.toNat :=
    Nat.div_lt_of_lt_mul (g.featureCount_eq ▸ h)
  have hworld := Nat.le_trans g.south_le (worldSize_le g.zoom_le)
  have hy : g.north.toNat + index / g.width.toNat < UInt32.size := by omega
  have hword : index / g.width.toNat < UInt32.size := by omega
  refine ⟨.ofNat (g.north.toNat + index / g.width.toNat), ?_, UInt32.toNat_ofNat_of_lt' hy⟩
  rw [row, if_neg (width_ne_zero h), Word.add_eq_ok_iff, UInt32.toNat_ofNat_of_lt' hy,
    UInt32.toNat_ofNat_of_lt' hword]

/-- A point of the grid has a column in the grid. -/
theorem exists_column {g : PixelGrid} {index : Nat} (h : index < g.featureCount) :
    ∃ x, g.column index = .ok x ∧ x.toNat = g.west.toNat + index % g.width.toNat := by
  have hwidth : 0 < g.width.toNat :=
    Nat.pos_of_ne_zero fun hzero => width_ne_zero h (UInt32.toNat_inj.mp hzero)
  have hcolumns := Nat.mod_lt index hwidth
  have hworld := Nat.le_trans g.east_le (worldSize_le g.zoom_le)
  have hx : g.west.toNat + index % g.width.toNat < UInt32.size := by omega
  have hword : index % g.width.toNat < UInt32.size := by omega
  refine ⟨.ofNat (g.west.toNat + index % g.width.toNat), ?_, UInt32.toNat_ofNat_of_lt' hx⟩
  rw [column, if_neg (width_ne_zero h), Word.add_eq_ok_iff, UInt32.toNat_ofNat_of_lt' hx,
    UInt32.toNat_ofNat_of_lt' hword]

end PixelGrid

end StreetLinkage.Mercator
