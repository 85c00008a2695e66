import Mathlib
import StreetLinkage.Mercator.Grid

/-!
# The numbers of the points of a grid

A grid is accepted when its zoom level is and its block ends inside the world (`new_eq_ok_iff`,
`exists_new_iff`), and none of the words with which this is tested can overflow (`TestExact`). What
is tested is just enough for the points: the row and the column of every point are pixels of the
block, and the points are the pixels of the block, numbered row by row from the north-west
(`pixel_of_index`, `existsUnique_index`).
-/

namespace StreetLinkage.Mercator

theorem worldSize_eq (zoom : UInt8) : worldSize zoom = 2 ^ (8 + zoom.toNat) :=
  (Nat.pow_add 2 8 zoom.toNat).symm

theorem le_maxZoom_iff {zoom : UInt8} : zoom ≤ maxZoom ↔ zoom.toNat ≤ 24 :=
  UInt8.le_iff_toNat_le

namespace PixelGrid

/-! ## Which blocks are grids -/

/-- The points of any block can be numbered: its sides are 32-bit words. -/
theorem countable_eq_true (width height : UInt32) : countable width height = true := by
  rw [countable, decide_eq_true_iff, UInt32.toNat_toUInt64, UInt32.toNat_toUInt64,
    ← toNat_mul_toUInt64]
  exact UInt64.toNat_lt _

/-- Every step of the test of `new` has the result that it has over the integers. The side of the
world is computed for zoom levels that are not refused. -/
structure TestExact (zoom : UInt8) (west north width height : UInt32) : Prop where
  /-- The power of two is one of the bits of its word. -/
  shift : zoom ≤ maxZoom → zoom.toNat < 64
  world : zoom ≤ maxZoom → (worldWord zoom).toNat = 2 ^ (8 + zoom.toNat)
  east : (west.toUInt64 + width.toUInt64).toNat = west.toNat + width.toNat
  south : (north.toUInt64 + height.toUInt64).toNat = north.toNat + height.toNat
  count : (width.toUInt64 * height.toUInt64).toNat = width.toNat * height.toNat

theorem testExact (zoom : UInt8) (west north width height : UInt32) :
    TestExact zoom west north width height where
  shift h := Nat.lt_of_le_of_lt (le_maxZoom_iff.mp h) (by decide)
  world h := (toNat_worldWord h).trans (worldSize_eq zoom)
  east := toNat_add_toUInt64 west width
  south := toNat_add_toUInt64 north height
  count := toNat_mul_toUInt64 width height

variable {zoom : UInt8} {west north width height : UInt32} {g : PixelGrid}

/-- The grid of a block is the one with the sides of the block. -/
theorem new_eq_ok_iff :
    new zoom west north width height = .ok g ↔
      g.zoom = zoom ∧ g.west = west ∧ g.north = north ∧ g.width = width ∧ g.height = height := by
  constructor
  · intro h
    unfold new at h
    split at h
    · split at h
      · cases h
        exact ⟨rfl, rfl, rfl, rfl, rfl⟩
      · cases h
    · cases h
  · rintro ⟨rfl, rfl, rfl, rfl, rfl⟩
    rw [new, dif_pos g.zoom_le, dif_pos ⟨⟨(fits_iff g.zoom_le).mpr g.east_le,
      (fits_iff g.zoom_le).mpr g.south_le⟩, countable_eq_true _ _⟩]

/-- A block is refused for its zoom level or for not ending inside the world, and for nothing else.
-/
theorem exists_new_iff :
    (∃ g, new zoom west north width height = .ok g) ↔
      zoom ≤ maxZoom ∧ west.toNat + width.toNat ≤ worldSize zoom ∧
        north.toNat + height.toNat ≤ worldSize zoom := by
  constructor
  · rintro ⟨g, h⟩
    obtain ⟨rfl, rfl, rfl, rfl, rfl⟩ := new_eq_ok_iff.mp h
    exact ⟨g.zoom_le, g.east_le, g.south_le⟩
  · rintro ⟨hzoom, heast, hsouth⟩
    exact ⟨⟨zoom, west, north, width, height, hzoom, heast, hsouth⟩,
      new_eq_ok_iff.mpr ⟨rfl, rfl, rfl, rfl, rfl⟩⟩

/-! ## The pixels of the points -/

/-- Is the pixel in row `y` and column `x` one of the block? -/
structure Contains (g : PixelGrid) (y x : UInt32) : Prop where
  north_le : g.north.toNat ≤ y.toNat
  lt_south : y.toNat < g.north.toNat + g.height.toNat
  west_le : g.west.toNat ≤ x.toNat
  lt_east : x.toNat < g.west.toNat + g.width.toNat

/-- The number of a pixel of the block: whole rows before it, and the columns before it in its row.
-/
def indexOf (g : PixelGrid) (y x : UInt32) : Nat :=
  (y.toNat - g.north.toNat) * g.width.toNat + (x.toNat - g.west.toNat)

/-- Row and column of a point are computed without a division by zero and without a loss of bits. -/
structure IndexExact (g : PixelGrid) (index : Nat) : Prop where
  width_ne_zero : g.width ≠ 0
  rows : (UInt32.ofNat (index / g.width.toNat)).toNat = index / g.width.toNat
  columns : (UInt32.ofNat (index % g.width.toNat)).toNat = index % g.width.toNat

theorem Contains.lt_world {y x : UInt32} (h : g.Contains y x) :
    y.toNat < worldSize g.zoom ∧ x.toNat < worldSize g.zoom :=
  ⟨Nat.lt_of_lt_of_le h.lt_south g.south_le, Nat.lt_of_lt_of_le h.lt_east g.east_le⟩

theorem width_pos {index : Nat} (h : index < g.featureCount) : 0 < g.width.toNat :=
  Nat.pos_of_ne_zero fun hzero => width_ne_zero h (UInt32.toNat_inj.mp hzero)

theorem indexExact {index : Nat} (h : index < g.featureCount) : g.IndexExact index where
  width_ne_zero := width_ne_zero h
  rows := by
    have hrows : index / g.width.toNat < g.height.toNat :=
      Nat.div_lt_of_lt_mul (g.featureCount_eq ▸ h)
    exact UInt32.toNat_ofNat_of_lt' (Nat.lt_trans hrows g.height.toNat_lt)
  columns := by
    have hcolumns := Nat.mod_lt index (width_pos h)
    exact UInt32.toNat_ofNat_of_lt' (Nat.lt_trans hcolumns g.width.toNat_lt)

/-- The pixel of a point is in the block, and the point has the number of its pixel. -/
theorem pixel_of_index {index : Nat} (h : index < g.featureCount) :
    ∃ y x, g.row index = .ok y ∧ g.column index = .ok x ∧ g.Contains y x ∧
      index = g.indexOf y x := by
  obtain ⟨y, hrow, hy⟩ := exists_row h
  obtain ⟨x, hcolumn, hx⟩ := exists_column h
  have hrows : index / g.width.toNat < g.height.toNat :=
    Nat.div_lt_of_lt_mul (g.featureCount_eq ▸ h)
  have hcolumns := Nat.mod_lt index (width_pos h)
  refine ⟨y, x, hrow, hcolumn, ⟨?_, ?_, ?_, ?_⟩, ?_⟩
  · exact hy ▸ Nat.le_add_right _ _
  · exact hy ▸ Nat.add_lt_add_left hrows _
  · exact hx ▸ Nat.le_add_right _ _
  · exact hx ▸ Nat.add_lt_add_left hcolumns _
  · rw [indexOf, hy, hx, Nat.add_sub_cancel_left, Nat.add_sub_cancel_left, Nat.div_add_mod']

theorem indexOf_lt {y x : UInt32} (h : g.Contains y x) : g.indexOf y x < g.featureCount := by
  obtain ⟨hnorth, hsouth, hwest, heast⟩ := h
  have hrows : y.toNat - g.north.toNat + 1 ≤ g.height.toNat := by omega
  have hcolumns : x.toNat - g.west.toNat < g.width.toNat := by omega
  calc g.indexOf y x
      < (y.toNat - g.north.toNat) * g.width.toNat + g.width.toNat := Nat.add_lt_add_left hcolumns _
    _ = (y.toNat - g.north.toNat + 1) * g.width.toNat := (Nat.succ_mul _ _).symm
    _ ≤ g.height.toNat * g.width.toNat := Nat.mul_le_mul_right _ hrows
    _ = g.featureCount := by rw [featureCount_eq, Nat.mul_comm]

/-- The number of a pixel gives its row and its column in the block back. -/
theorem indexOf_div_mod {y x : UInt32} (h : g.Contains y x) :
    g.indexOf y x / g.width.toNat = y.toNat - g.north.toNat ∧
      g.indexOf y x % g.width.toNat = x.toNat - g.west.toNat := by
  have hwest := h.west_le
  have heast := h.lt_east
  have hcolumns : x.toNat - g.west.toNat < g.width.toNat := by omega
  rw [indexOf, Nat.mul_comm]
  constructor
  · rw [Nat.mul_add_div (by omega), Nat.div_eq_of_lt hcolumns, Nat.add_zero]
  · rw [Nat.mul_add_mod, Nat.mod_eq_of_lt hcolumns]

/-- The point with the number of a pixel of the block is that pixel. -/
theorem pixel_of_indexOf {y x : UInt32} (h : g.Contains y x) :
    g.row (g.indexOf y x) = .ok y ∧ g.column (g.indexOf y x) = .ok x := by
  obtain ⟨y', hrow, hy⟩ := exists_row (indexOf_lt h)
  obtain ⟨x', hcolumn, hx⟩ := exists_column (indexOf_lt h)
  rw [(indexOf_div_mod h).1] at hy
  rw [(indexOf_div_mod h).2] at hx
  have hnorth := h.north_le
  have hwest := h.west_le
  have hyy : y' = y := UInt32.toNat_inj.mp (by omega)
  have hxx : x' = x := UInt32.toNat_inj.mp (by omega)
  exact ⟨hyy ▸ hrow, hxx ▸ hcolumn⟩

/-- Each pixel of the block is exactly one of the points. -/
theorem existsUnique_index {y x : UInt32} (h : g.Contains y x) :
    ∃! index, index < g.featureCount ∧ g.row index = .ok y ∧ g.column index = .ok x := by
  refine ⟨g.indexOf y x, ⟨indexOf_lt h, pixel_of_indexOf h⟩, ?_⟩
  rintro index ⟨hindex, hrow, hcolumn⟩
  obtain ⟨y', x', hrow', hcolumn', -, hnumber⟩ := pixel_of_index hindex
  obtain rfl : y' = y := Except.ok.inj (hrow'.symm.trans hrow)
  obtain rfl : x' = x := Except.ok.inj (hcolumn'.symm.trans hcolumn)
  exact hnumber

/-- **Points are numbered row by row.** Nothing overflows when a block is tested, and it is accepted
exactly if its zoom level is at most 24 and it ends inside the world of `2 ^ (8 + zoom)` pixels on a
side. The grid has one point for each pixel; row and column of a point are computed without a fault
or a loss of bits, are pixels of the block, hence of the world, and give the number of the point;
and each pixel of the block is one point. -/
theorem points_numbered_row_by_row (zoom : UInt8) (west north width height : UInt32) :
    TestExact zoom west north width height ∧
    ((∃ g, new zoom west north width height = .ok g) ↔
      zoom.toNat ≤ 24 ∧ west.toNat + width.toNat ≤ 2 ^ (8 + zoom.toNat) ∧
        north.toNat + height.toNat ≤ 2 ^ (8 + zoom.toNat)) ∧
    ∀ g, new zoom west north width height = .ok g →
      g.featureCount = width.toNat * height.toNat ∧
      (∀ index < g.featureCount, g.IndexExact index ∧
        ∃ y x, g.row index = .ok y ∧ g.column index = .ok x ∧
          (north.toNat ≤ y.toNat ∧ y.toNat < north.toNat + height.toNat) ∧
          (west.toNat ≤ x.toNat ∧ x.toNat < west.toNat + width.toNat) ∧
          y.toNat < 2 ^ (8 + zoom.toNat) ∧ x.toNat < 2 ^ (8 + zoom.toNat) ∧
          index = (y.toNat - north.toNat) * width.toNat + (x.toNat - west.toNat)) ∧
      ∀ y x : UInt32, (north.toNat ≤ y.toNat ∧ y.toNat < north.toNat + height.toNat) →
        (west.toNat ≤ x.toNat ∧ x.toNat < west.toNat + width.toNat) →
        ∃! index, index < g.featureCount ∧ g.row index = .ok y ∧ g.column index = .ok x := by
  refine ⟨testExact zoom west north width height, ?_, fun g h => ?_⟩
  · rw [exists_new_iff, le_maxZoom_iff, worldSize_eq]
  · obtain ⟨rfl, rfl, rfl, rfl, rfl⟩ := new_eq_ok_iff.mp h
    refine ⟨g.featureCount_eq, fun index hindex => ⟨indexExact hindex, ?_⟩, ?_⟩
    · obtain ⟨y, x, hrow, hcolumn, hpixel, hnumber⟩ := pixel_of_index hindex
      have hworld := hpixel.lt_world
      rw [worldSize_eq] at hworld
      exact ⟨y, x, hrow, hcolumn, ⟨hpixel.north_le, hpixel.lt_south⟩,
        ⟨hpixel.west_le, hpixel.lt_east⟩, hworld.1, hworld.2, hnumber⟩
    · rintro y x ⟨hnorth, hsouth⟩ ⟨hwest, heast⟩
      exact existsUnique_index ⟨hnorth, hsouth, hwest, heast⟩

/-- Two rows of one pixel in the south-eastern corner of the largest world: the second point is the
last pixel of all, whose row and column are the last 32-bit words. -/
theorem points_numbered_row_by_row_at_last_pixel :
    ∃ g, new 24 4294967295 4294967294 1 2 = .ok g ∧ g.featureCount = 2 ∧
      ∃ y x, g.row 1 = .ok y ∧ g.column 1 = .ok x ∧
        y.toNat < 2 ^ 32 ∧ x.toNat < 2 ^ 32 ∧
          1 = (y.toNat - 4294967294) * 1 + (x.toNat - 4294967295) := by
  obtain ⟨-, haccepted, hpoints⟩ :=
    points_numbered_row_by_row 24 4294967295 4294967294 1 2
  obtain ⟨g, hg⟩ := haccepted.mpr (by decide)
  obtain ⟨hcount, hpixel, -⟩ := hpoints g hg
  obtain ⟨-, y, x, hrow, hcolumn, -, -, hy, hx, hindex⟩ := hpixel 1 (by rw [hcount]; decide)
  exact ⟨g, hg, hcount, y, x, hrow, hcolumn, hy, hx, hindex⟩

end PixelGrid

end StreetLinkage.Mercator
