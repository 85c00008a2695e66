import StreetLinkage.Proofs.GridIndexing
import StreetLinkage.Proofs.Projection

/-!
# Grids that cover bounds

`PixelGrid.coveringBy` takes the pixels of the four bounds and counts the columns and rows between
them. As the projection keeps the order of positions, the bounds of a position are the bounds of its
pixel, so that the grid has every position of the bounds (`Covers`), and it needs all of its rows
and columns as the pixels of the bounds are among its own.

The pixels of the bounds (`Corners`) decide the outcome (`Corners.outcome`): once they are there,
the grid is in the world, and what may still go wrong is that a side of the grid is no 32-bit word.
This is so for one length only, the whole side of the world at the highest zoom level.
-/

namespace StreetLinkage.Mercator

/-! ### Counting pixels -/

namespace PixelGrid

/-- The number of pixels from one to a later one is a word, unless these are the first and the last
word. -/
theorem span_cases {first last : UInt32} (h : first.toNat ≤ last.toNat) :
    (∃ n, span first last = .ok n ∧ n.toNat + first.toNat = last.toNat + 1) ∨
      (span first last = .error .addOverflow ∧ first.toNat = 0 ∧ last.toNat = 2 ^ 32 - 1) := by
  have hlast := last.toNat_lt
  have hsize : UInt32.size = 2 ^ 32 := rfl
  obtain ⟨d, hd⟩ : ∃ d : UInt32, d.toNat = last.toNat - first.toNat :=
    ⟨.ofNat (last.toNat - first.toNat), UInt32.toNat_ofNat_of_lt' (by omega)⟩
  have hsub : Word.sub last first = .ok d := Word.sub_eq_ok_iff.mpr (by omega)
  have hspan : span first last = Word.add d 1 := by rw [span, hsub]; rfl
  have hone : (1 : UInt32).toNat = 1 := rfl
  rw [hspan]
  by_cases hword : d.toNat + 1 < UInt32.size
  · refine .inl ⟨.ofNat (d.toNat + 1), Word.add_eq_ok_iff.mpr ?_, ?_⟩
    · rw [UInt32.toNat_ofNat_of_lt' hword, hone]
    · rw [UInt32.toNat_ofNat_of_lt' hword]
      omega
  · refine .inr ⟨if_neg hword, ?_⟩
    omega

end PixelGrid

/-! ### Bounds and their pixels -/

/-- Bounds in degrees. -/
structure Bounds where
  south : Float
  west : Float
  north : Float
  east : Float

namespace Bounds

/-- Is the position within the bounds? -/
structure Contains (b : Bounds) (lat lon : Float) : Prop where
  south_le : b.south ≤ lat
  le_north : lat ≤ b.north
  west_le : b.west ≤ lon
  le_east : lon ≤ b.east

/-- The covering grid of the bounds. -/
def grid (b : Bounds) (t : Trigonometry) (zoom : UInt8) : Except GridError PixelGrid :=
  PixelGrid.coveringBy t zoom b.south b.west b.north b.east

end Bounds

/-- The bounds are in order, and these are their pixels: the last row and the first column, and the
first row and the last column. -/
structure Corners (t : Trigonometry) (b : Bounds) (zoom : UInt8)
    (south west north east : UInt32) : Prop where
  lat_order : ¬b.north < b.south
  lon_order : ¬b.east < b.west
  west_eq : lonToPixel b.west zoom = .ok west
  east_eq : lonToPixel b.east zoom = .ok east
  north_eq : latToPixelBy t b.north zoom = .ok north
  south_eq : latToPixelBy t b.south zoom = .ok south

/-- Where the bounds have no pixels, they are refused, and not for the size of a grid. -/
theorem exists_corners_or_refused (t : Trigonometry) (b : Bounds) (zoom : UInt8) :
    (∃ south west north east, Corners t b zoom south west north east) ∨
      ∃ reason, b.grid t zoom = .error (.refused reason) ∧
        ∀ width height, reason ≠ .gridTooLarge width height := by
  unfold Bounds.grid PixelGrid.coveringBy
  by_cases hlat : b.north < b.south
  · rw [if_pos hlat]
    exact .inr ⟨.invertedBounds b.south b.north, rfl, nofun⟩
  by_cases hlon : b.east < b.west
  · rw [if_neg hlat, if_pos hlon]
    exact .inr ⟨.invertedBounds b.west b.east, rfl, nofun⟩
  rw [if_neg hlat, if_neg hlon]
  rcases lonToPixel_cases b.west zoom with ⟨west, hwest⟩ | ⟨reason, hwest, hreason⟩ <;> rw [hwest]
  case inr => exact .inr ⟨reason, rfl, hreason⟩
  rcases lonToPixel_cases b.east zoom with ⟨east, heast⟩ | ⟨reason, heast, hreason⟩ <;> rw [heast]
  case inr => exact .inr ⟨reason, rfl, hreason⟩
  rcases latToPixelBy_cases t b.north zoom with ⟨north, hnorth⟩ | ⟨reason, hnorth, hreason⟩ <;>
    rw [hnorth]
  case inr => exact .inr ⟨reason, rfl, hreason⟩
  rcases latToPixelBy_cases t b.south zoom with ⟨south, hsouth⟩ | ⟨reason, hsouth, hreason⟩ <;>
    rw [hsouth]
  case inr => exact .inr ⟨reason, rfl, hreason⟩
  exact .inl ⟨south, west, north, east, hlat, hlon, hwest, heast, hnorth, hsouth⟩

section Corners

open PixelGrid Binary64

variable {t : Trigonometry} {b : Bounds} {zoom : UInt8} {south west north east : UInt32}
  {g : PixelGrid}

theorem Corners.zoom_le (h : Corners t b zoom south west north east) : zoom ≤ maxZoom :=
  (lonToPixel_eq_ok_iff.mp h.west_eq).2.1

/-- Bounds that have pixels are numbers, so that they are ordered. -/
theorem Corners.ordered (h : Corners t b zoom south west north east) :
    b.south ≤ b.north ∧ b.west ≤ b.east := by
  have hsouth := (latToPixelBy_eq_ok_iff.mp h.south_eq).1.2
  have hnorth := (latToPixelBy_eq_ok_iff.mp h.north_eq).1.2
  have hwest := (lonToPixel_eq_ok_iff.mp h.west_eq).1.2
  have heast := (lonToPixel_eq_ok_iff.mp h.east_eq).1.2
  exact ⟨le_of_not_lt (le_self_of_le hsouth).1 (le_self_of_le hnorth).1 h.lat_order,
    le_of_not_lt (le_self_of_le hwest).1 (le_self_of_le heast).1 h.lon_order⟩

theorem Corners.pixels_ordered (ht : t.Monotone) (h : Corners t b zoom south west north east) :
    north.toNat ≤ south.toNat ∧ west.toNat ≤ east.toNat :=
  ⟨latToPixelBy_anti ht h.south_eq h.north_eq h.ordered.1,
    lonToPixel_mono h.west_eq h.east_eq h.ordered.2⟩

/-- The north-western and the south-eastern bound are within the bounds. -/
theorem Corners.contains (h : Corners t b zoom south west north east) :
    b.Contains b.north b.west ∧ b.Contains b.south b.east := by
  obtain ⟨hlat, hlon⟩ := h.ordered
  have hlat' := le_self_of_le hlat
  have hlon' := le_self_of_le hlon
  exact ⟨⟨hlat, hlat'.2, hlon'.1, hlon⟩, ⟨hlat'.1, hlat, hlon, hlon'.2⟩⟩

theorem Corners.grid_eq (h : Corners t b zoom south west north east) :
    b.grid t zoom = (do
      let width ← (span west east).mapError .fault
      let height ← (span north south).mapError .fault
      (PixelGrid.new zoom west north width height).mapError .refused) := by
  unfold Bounds.grid PixelGrid.coveringBy
  rw [if_neg h.lat_order, if_neg h.lon_order, h.west_eq, h.east_eq, h.north_eq, h.south_eq]
  rfl

/-- The grid from the one corner to the other, both included. -/
structure PixelGrid.Joins (g : PixelGrid) (south west north east : UInt32) : Prop where
  west_eq : g.west = west
  north_eq : g.north = north
  width_add : g.width.toNat + west.toNat = east.toNat + 1
  height_add : g.height.toNat + north.toNat = south.toNat + 1

/-- The pixels of the bounds are the first and the last word, in one direction at least. -/
def SpansWords (south west north east : UInt32) : Prop :=
  (west.toNat = 0 ∧ east.toNat = 2 ^ 32 - 1) ∨ (north.toNat = 0 ∧ south.toNat = 2 ^ 32 - 1)

/-- **The outcome for the pixels of the bounds** is the grid that joins them, or a side that is no
word: this happens to the whole side of a world of `2 ^ 32` pixels. -/
theorem Corners.outcome (ht : t.Monotone) (h : Corners t b zoom south west north east) :
    (∃ g, b.grid t zoom = .ok g ∧ g.Joins south west north east) ∨
      (b.grid t zoom = .error (.fault .addOverflow) ∧ SpansWords south west north east) := by
  obtain ⟨hrows, hcolumns⟩ := h.pixels_ordered ht
  rw [h.grid_eq]
  rcases span_cases hcolumns with ⟨width, hwidth, hwidth'⟩ | ⟨hwidth, hends⟩
  · rcases span_cases hrows with ⟨height, hheight, hheight'⟩ | ⟨hheight, hends⟩
    · have heast := lonToPixel_lt h.east_eq
      have hsouth := latToPixelBy_lt h.south_eq
      obtain ⟨g, hg⟩ := exists_new_iff.mpr (⟨h.zoom_le, by omega, by omega⟩ :
        zoom ≤ maxZoom ∧ west.toNat + width.toNat ≤ worldSize zoom ∧
          north.toNat + height.toNat ≤ worldSize zoom)
      obtain ⟨-, rfl, rfl, rfl, rfl⟩ := new_eq_ok_iff.mp hg
      refine .inl ⟨g, ?_, rfl, rfl, hwidth', hheight'⟩
      rw [hwidth, hheight]
      show (PixelGrid.new zoom g.west g.north g.width g.height).mapError GridError.refused = .ok g
      rw [hg]
      rfl
    · refine .inr ⟨?_, .inr hends⟩
      rw [hwidth, hheight]
      rfl
  · refine .inr ⟨?_, .inl hends⟩
    rw [hwidth]
    rfl

/-! ### What a grid covers -/

/-- For each position within the bounds, exactly one point of the grid has its pixel. -/
def PixelGrid.Covers (t : Trigonometry) (b : Bounds) (zoom : UInt8) (g : PixelGrid) : Prop :=
  ∀ lat lon, b.Contains lat lon → ∃ y x, latToPixelBy t lat zoom = .ok y ∧
    lonToPixel lon zoom = .ok x ∧
      ∃! index, index < g.featureCount ∧ g.row index = .ok y ∧ g.column index = .ok x

/-- All rows and columns of one grid are rows and columns of the other. -/
structure PixelGrid.Within (g g' : PixelGrid) : Prop where
  north_le : g'.north.toNat ≤ g.north.toNat
  south_le : g.north.toNat + g.height.toNat ≤ g'.north.toNat + g'.height.toNat
  west_le : g'.west.toNat ≤ g.west.toNat
  east_le : g.west.toNat + g.width.toNat ≤ g'.west.toNat + g'.width.toNat

/-- The pixels of the grid are those from the one corner to the other. -/
theorem PixelGrid.Joins.contains_iff (h : g.Joins south west north east) {y x : UInt32} :
    g.Contains y x ↔ (north.toNat ≤ y.toNat ∧ y.toNat ≤ south.toNat) ∧
      west.toNat ≤ x.toNat ∧ x.toNat ≤ east.toNat := by
  obtain ⟨rfl, rfl, hwidth, hheight⟩ := h
  constructor
  · rintro ⟨hnorth, hsouth, hwest, heast⟩
    omega
  · rintro ⟨⟨hnorth, hsouth⟩, hwest, heast⟩
    exact ⟨hnorth, by omega, hwest, by omega⟩

theorem PixelGrid.Joins.covers (ht : t.Monotone) (hc : Corners t b zoom south west north east)
    (h : g.Joins south west north east) : g.Covers t b zoom := by
  rintro lat lon ⟨hsouth, hnorth, hwest, heast⟩
  have hlat : minLat ≤ lat ∧ lat ≤ maxLat :=
    ⟨le_trans (latToPixelBy_eq_ok_iff.mp hc.south_eq).1.1 hsouth,
      le_trans hnorth (latToPixelBy_eq_ok_iff.mp hc.north_eq).1.2⟩
  have hlon : -180 ≤ lon ∧ lon ≤ 180 :=
    ⟨le_trans (lonToPixel_eq_ok_iff.mp hc.west_eq).1.1 hwest,
      le_trans heast (lonToPixel_eq_ok_iff.mp hc.east_eq).1.2⟩
  have hy := latToPixelBy_eq_ok_iff (t := t).mpr ⟨hlat, hc.zoom_le, rfl⟩
  have hx := lonToPixel_eq_ok_iff.mpr ⟨hlon, hc.zoom_le, rfl⟩
  exact ⟨_, _, hy, hx, existsUnique_index (h.contains_iff.mpr
    ⟨⟨latToPixelBy_anti ht hy hc.north_eq hnorth, latToPixelBy_anti ht hc.south_eq hy hsouth⟩,
      lonToPixel_mono hc.west_eq hx hwest, lonToPixel_mono hx hc.east_eq heast⟩)⟩

/-- A pixel of a position that is covered is in the grid. -/
theorem PixelGrid.Covers.contains (h : g.Covers t b zoom) {lat lon : Float} {y x : UInt32}
    (hin : b.Contains lat lon) (hy : latToPixelBy t lat zoom = .ok y)
    (hx : lonToPixel lon zoom = .ok x) : g.Contains y x := by
  obtain ⟨y', x', hy', hx', index, ⟨hindex, hrow, hcolumn⟩, -⟩ := h lat lon hin
  obtain rfl : y' = y := Except.ok.inj (hy'.symm.trans hy)
  obtain rfl : x' = x := Except.ok.inj (hx'.symm.trans hx)
  obtain ⟨y', x', hrow', hcolumn', hcontains, -⟩ := pixel_of_index hindex
  obtain rfl : y' = _ := Except.ok.inj (hrow'.symm.trans hrow)
  obtain rfl : x' = _ := Except.ok.inj (hcolumn'.symm.trans hcolumn)
  exact hcontains

/-- The grid that joins the pixels of the bounds is within every grid that covers them. -/
theorem PixelGrid.Joins.within (hc : Corners t b zoom south west north east)
    (h : g.Joins south west north east) {g' : PixelGrid} (h' : g'.Covers t b zoom) :
    g.Within g' := by
  obtain ⟨hnorth, -, hwest, -⟩ := h'.contains hc.contains.1 hc.north_eq hc.west_eq
  obtain ⟨-, hsouth, -, heast⟩ := h'.contains hc.contains.2 hc.south_eq hc.east_eq
  obtain ⟨rfl, rfl, hwidth, hheight⟩ := h
  exact ⟨hnorth, by omega, hwest, by omega⟩

/-- The number of the south-eastern pixel is the last one. -/
theorem PixelGrid.Joins.indexOf_last (h : g.Joins south west north east)
    (hlast : g.Contains south east) : g.indexOf south east = g.featureCount - 1 := by
  have hwidth := width_pos (indexOf_lt hlast)
  obtain ⟨hnorth, hsouth, -, -⟩ := hlast
  obtain ⟨rfl, rfl, hwidth', hheight'⟩ := h
  have hrows : south.toNat - g.north.toNat = g.height.toNat - 1 := by omega
  have hcolumns : east.toNat - g.west.toNat = g.width.toNat - 1 := by omega
  have hone := Nat.le_mul_of_pos_left g.width.toNat (show 0 < g.height.toNat by omega)
  rw [indexOf, hrows, hcolumns, featureCount_eq, Nat.mul_comm g.width.toNat, Nat.sub_mul, Nat.one_mul]
  omega

/-- The first point is in the one corner and the last point is in the other. -/
theorem PixelGrid.Joins.ends (ht : t.Monotone) (hc : Corners t b zoom south west north east)
    (h : g.Joins south west north east) :
    0 < g.featureCount ∧ (g.row 0 = .ok north ∧ g.column 0 = .ok west) ∧
      g.row (g.featureCount - 1) = .ok south ∧ g.column (g.featureCount - 1) = .ok east := by
  obtain ⟨hrows, hcolumns⟩ := hc.pixels_ordered ht
  have hfirst : g.Contains north west := h.contains_iff.mpr ⟨⟨le_rfl, hrows⟩, le_rfl, hcolumns⟩
  have hlast : g.Contains south east := h.contains_iff.mpr ⟨⟨hrows, le_rfl⟩, hcolumns, le_rfl⟩
  have hzero : g.indexOf north west = 0 := by
    rw [indexOf, h.north_eq, h.west_eq, Nat.sub_self, Nat.sub_self, Nat.zero_mul]
  rw [← h.indexOf_last hlast]
  exact ⟨Nat.zero_lt_of_lt (indexOf_lt hfirst), hzero ▸ pixel_of_indexOf hfirst,
    pixel_of_indexOf hlast⟩

end Corners

/-! ### What a covering is -/

open Binary64 in
/-- **A covering is exact.** Let the tangent and the inverse hyperbolic sine keep the order. Then
the covering grid of any bounds, if there is one, has exactly one point for the pixel of each
position within the bounds; its first and last rows and columns are the pixels of the bounds; and it
is within every other grid that covers the bounds. No bounds are refused for the size of their grid.
-/
theorem coveringBy_exact {t : Trigonometry} (ht : t.Monotone) (zoom : UInt8) (b : Bounds) :
    (∀ g, PixelGrid.coveringBy t zoom b.south b.west b.north b.east = .ok g →
      g.Covers t b zoom ∧
      (∃ south west north east,
        (latToPixelBy t b.south zoom = .ok south ∧ lonToPixel b.west zoom = .ok west ∧
          latToPixelBy t b.north zoom = .ok north ∧ lonToPixel b.east zoom = .ok east) ∧
        0 < g.featureCount ∧ (g.row 0 = .ok north ∧ g.column 0 = .ok west) ∧
        g.row (g.featureCount - 1) = .ok south ∧ g.column (g.featureCount - 1) = .ok east) ∧
      ∀ g' : PixelGrid, g'.Covers t b zoom → g.Within g') ∧
    ∀ width height, PixelGrid.coveringBy t zoom b.south b.west b.north b.east ≠
      .error (.refused (.gridTooLarge width height)) := by
  rcases exists_corners_or_refused t b zoom with ⟨south, west, north, east, hc⟩ | ⟨reason, h, hreason⟩
  · rcases hc.outcome ht with ⟨g, hg, hjoins⟩ | ⟨hfault, -⟩
    · refine ⟨fun g' hg' => ?_, fun width height hrefused => ?_⟩
      · obtain rfl : g = g' := Except.ok.inj (hg.symm.trans hg')
        exact ⟨hjoins.covers ht hc, ⟨south, west, north, east,
          ⟨hc.south_eq, hc.west_eq, hc.north_eq, hc.east_eq⟩, hjoins.ends ht hc⟩,
          fun g' h' => hjoins.within hc h'⟩
      · cases hg.symm.trans hrefused
    · refine ⟨fun g hg => ?_, fun width height hrefused => ?_⟩
      · cases hfault.symm.trans hg
      · cases hfault.symm.trans hrefused
  · refine ⟨fun g hg => ?_, fun width height hrefused => ?_⟩
    · cases h.symm.trans hg
    · exact hreason width height (GridError.refused.inj (Except.error.inj (h.symm.trans hrefused)))

/-- The two functions as a library has them at the angles of 10 and of 20 degrees, and one of the
two values at all other angles. -/
def Trigonometry.sampled : Trigonometry where
  tan x := if x ≤ 0.17453292519943295 then 0.17632698070846498 else 0.36397023426620234
  asinh x := if x ≤ 0.17632698070846498 then 0.1754258296518183 else 0.35637850472445

theorem ite_le_ite {x y c low high : Float} (h : x ≤ y) (hlow : low ≤ low) (hhigh : high ≤ high)
    (hle : low ≤ high) : (if x ≤ c then low else high) ≤ if y ≤ c then low else high := by
  by_cases hy : y ≤ c
  · rw [if_pos hy, if_pos (Binary64.le_trans h hy)]
    exact hlow
  · rw [if_neg hy]
    split
    · exact hle
    · exact hhigh

theorem Trigonometry.monotone_sampled : Trigonometry.sampled.Monotone where
  tan_le _ h _ := ite_le_ite h (by decide) (by decide) (by decide)
  asinh_le h := ite_le_ite h (by decide) (by decide) (by decide)

/-- From 10 to 20 degrees north and from 170 degrees east to the antimeridian, at zoom 2: the grid
ends with the last column of the world. -/
theorem coveringBy_exact_to_antimeridian :
    Trigonometry.sampled.Monotone ∧
      ∃ g, PixelGrid.coveringBy .sampled 2 10 170 20 180 = .ok g ∧ g.featureCount = 31 * 29 ∧
        g.row 0 = .ok 453 ∧ g.column (g.featureCount - 1) = .ok 1023 := by
  refine ⟨Trigonometry.monotone_sampled, ?_⟩
  have hg : PixelGrid.coveringBy .sampled 2 10 170 20 180 =
      .ok ⟨2, 995, 453, 29, 31, by decide, by decide, by decide⟩ := by decide +kernel
  have hexact := (coveringBy_exact Trigonometry.monotone_sampled 2 ⟨10, 170, 20, 180⟩).1 _ hg
  obtain ⟨south, west, north, east, ⟨-, -, hnorth, heast⟩, -, ⟨hrow, -⟩, -, hcolumn⟩ := hexact.2.1
  refine ⟨_, hg, by decide, ?_, ?_⟩
  · exact hrow.trans (congrArg _ (Except.ok.inj (hnorth.symm.trans (by decide +kernel))))
  · exact hcolumn.trans (congrArg _ (Except.ok.inj (heast.symm.trans (by decide +kernel))))

/-! ### When a side of a covering is no word -/

/-- Bounds have pixels if they are in order and can be projected. -/
theorem exists_corners_iff {t : Trigonometry} {b : Bounds} {zoom : UInt8} :
    (∃ south west north east, Corners t b zoom south west north east) ↔
      zoom ≤ maxZoom ∧ (minLat ≤ b.south ∧ b.south ≤ b.north ∧ b.north ≤ maxLat) ∧
        (-180 ≤ b.west ∧ b.west ≤ b.east ∧ b.east ≤ 180) := by
  constructor
  · rintro ⟨south, west, north, east, h⟩
    exact ⟨h.zoom_le,
      ⟨(latToPixelBy_eq_ok_iff.mp h.south_eq).1.1, h.ordered.1,
        (latToPixelBy_eq_ok_iff.mp h.north_eq).1.2⟩,
      ⟨(lonToPixel_eq_ok_iff.mp h.west_eq).1.1, h.ordered.2, (lonToPixel_eq_ok_iff.mp h.east_eq).1.2⟩⟩
  · rintro ⟨hzoom, ⟨hsouth, hlat, hnorth⟩, hwest, hlon, heast⟩
    exact ⟨_, _, _, _, {
      lat_order := Binary64.not_lt_of_le hlat
      lon_order := Binary64.not_lt_of_le hlon
      west_eq := lonToPixel_eq_ok_iff.mpr ⟨⟨hwest, Binary64.le_trans hlon heast⟩, hzoom, rfl⟩
      east_eq := lonToPixel_eq_ok_iff.mpr ⟨⟨Binary64.le_trans hwest hlon, heast⟩, hzoom, rfl⟩
      north_eq :=
        latToPixelBy_eq_ok_iff.mpr ⟨⟨Binary64.le_trans hsouth hlat, hnorth⟩, hzoom, rfl⟩
      south_eq :=
        latToPixelBy_eq_ok_iff.mpr ⟨⟨hsouth, Binary64.le_trans hlat hnorth⟩, hzoom, rfl⟩ }⟩

/-- Only the largest world has a pixel whose number is the last word. -/
theorem eq_maxZoom_of_lt_worldSize {zoom : UInt8} (hzoom : zoom ≤ maxZoom)
    (h : 2 ^ 32 - 1 < worldSize zoom) : zoom = 24 := by
  rw [worldSize_eq] at h
  have hle := le_maxZoom_iff.mp hzoom
  have hge : 24 ≤ zoom.toNat := by
    by_contra hlt
    have hsmall : 2 ^ (8 + zoom.toNat) ≤ 2 ^ 31 := Nat.pow_le_pow_right (by decide) (by omega)
    omega
  exact UInt8.toNat_inj.mp (Nat.le_antisymm hle hge)

section Faults

variable {t : Trigonometry} {b : Bounds} {zoom : UInt8} {south west north east : UInt32}

theorem Corners.fault_iff (ht : t.Monotone) (h : Corners t b zoom south west north east) :
    b.grid t zoom = .error (.fault .addOverflow) ↔ SpansWords south west north east := by
  rcases h.outcome ht with ⟨g, hg, hjoins⟩ | ⟨hfault, hends⟩
  · -- The sides of a grid are words, so that its corners are not so far apart.
    have hwidth := hjoins.width_add
    have hheight := hjoins.height_add
    have hword := g.width.toNat_lt
    have hword' := g.height.toNat_lt
    refine ⟨fun hfault => ?_, ?_⟩
    · cases hg.symm.trans hfault
    · rintro (⟨hwest, heast⟩ | ⟨hnorth, hsouth⟩) <;> omega
  · exact ⟨fun _ => hends, fun _ => hfault⟩

theorem Corners.zoom_eq_of_spansWords (h : Corners t b zoom south west north east)
    (hends : SpansWords south west north east) : zoom = 24 := by
  have heast := lonToPixel_lt h.east_eq
  have hsouth := latToPixelBy_lt h.south_eq
  refine eq_maxZoom_of_lt_worldSize h.zoom_le ?_
  rcases hends with ⟨-, hlast⟩ | ⟨-, hlast⟩ <;> omega

theorem Corners.spansWords_iff (h : Corners t b zoom south west north east) :
    SpansWords south west north east ↔
      (lonToPixel b.west zoom = .ok 0 ∧ lonToPixel b.east zoom = .ok 4294967295) ∨
        (latToPixelBy t b.north zoom = .ok 0 ∧ latToPixelBy t b.south zoom = .ok 4294967295) := by
  rw [h.west_eq, h.east_eq, h.north_eq, h.south_eq]
  simp only [SpansWords, Except.ok.injEq, ← UInt32.toNat_inj]
  rfl

end Faults

/-- **When a covering faults.** A covering is a grid, a refusal or a sum that is no word; a
difference never goes wrong. The sum is the number of columns or rows from the first to the last
pixel of the largest world, for bounds that are in order and can be projected. -/
theorem coveringBy_faults_iff {t : Trigonometry} (ht : t.Monotone) (zoom : UInt8) (b : Bounds) :
    ((∃ g, PixelGrid.coveringBy t zoom b.south b.west b.north b.east = .ok g) ∨
      (∃ reason, PixelGrid.coveringBy t zoom b.south b.west b.north b.east =
        .error (.refused reason)) ∨
      PixelGrid.coveringBy t zoom b.south b.west b.north b.east =
        .error (.fault .addOverflow)) ∧
    (PixelGrid.coveringBy t zoom b.south b.west b.north b.east = .error (.fault .addOverflow) ↔
      zoom = 24 ∧ (minLat ≤ b.south ∧ b.south ≤ b.north ∧ b.north ≤ maxLat) ∧
        (-180 ≤ b.west ∧ b.west ≤ b.east ∧ b.east ≤ 180) ∧
        ((lonToPixel b.west zoom = .ok 0 ∧ lonToPixel b.east zoom = .ok 4294967295) ∨
          (latToPixelBy t b.north zoom = .ok 0 ∧
            latToPixelBy t b.south zoom = .ok 4294967295))) := by
  rcases exists_corners_or_refused t b zoom with ⟨south, west, north, east, hc⟩ | ⟨reason, h, -⟩
  · have hranges := exists_corners_iff.mp ⟨south, west, north, east, hc⟩
    rw [← hc.spansWords_iff]
    refine ⟨?_, fun hfault => ?_, ?_⟩
    · rcases hc.outcome ht with ⟨g, hg, -⟩ | ⟨hfault, -⟩
      · exact .inl ⟨g, hg⟩
      · exact .inr (.inr hfault)
    · have hends := (hc.fault_iff ht).mp hfault
      exact ⟨hc.zoom_eq_of_spansWords hends, hranges.2.1, hranges.2.2, hends⟩
    · rintro ⟨-, -, -, hends⟩
      exact (hc.fault_iff ht).mpr hends
  · refine ⟨.inr (.inl ⟨reason, h⟩), fun hfault => ?_, ?_⟩
    · cases h.symm.trans hfault
    · -- Bounds that meet the conditions have pixels, so that they are not refused.
      rintro ⟨rfl, hlat, hlon, -⟩
      obtain ⟨south, west, north, east, hc⟩ :=
        exists_corners_iff (t := t).mpr ⟨UInt8.le_refl maxZoom, hlat, hlon⟩
      rcases hc.outcome ht with ⟨g, hg, -⟩ | ⟨hfault, -⟩
      · cases h.symm.trans hg
      · cases h.symm.trans hfault

/-- A belt around the whole world at the highest zoom level: it would have one column too many for a
word. -/
theorem coveringBy_faults_around_world :
    Trigonometry.sampled.Monotone ∧
      PixelGrid.coveringBy .sampled 24 10 (-180) 20 180 = .error (.fault .addOverflow) :=
  ⟨Trigonometry.monotone_sampled,
    (coveringBy_faults_iff Trigonometry.monotone_sampled 24 ⟨10, -180, 20, 180⟩).2.mpr
      ⟨rfl, by decide +kernel, by decide +kernel, .inl (by decide +kernel)⟩⟩

/-- The fault does not depend on the functions of the platform: the columns are counted before the
rows. -/
theorem covering_world_faults :
    PixelGrid.covering 24 (-85) (-180) 85 180 = .error (.fault .addOverflow) := by
  have hcorners : ∃ south west north east,
      Corners .standard ⟨-85, -180, 85, 180⟩ 24 south west north east :=
    exists_corners_iff.mpr ⟨by decide, by decide +kernel, by decide +kernel⟩
  obtain ⟨south, west, north, east, hc⟩ := hcorners
  have hwest : lonToPixel (-180) 24 = .ok 0 := by decide +kernel
  have heast : lonToPixel 180 24 = .ok 4294967295 := by decide +kernel
  have hcolumns : PixelGrid.span 0 4294967295 = .error .addOverflow := by decide
  show Bounds.grid ⟨-85, -180, 85, 180⟩ .standard 24 = _
  rw [hc.grid_eq, Except.ok.inj (hc.west_eq.symm.trans hwest),
    Except.ok.inj (hc.east_eq.symm.trans heast), hcolumns]
  rfl

end StreetLinkage.Mercator
