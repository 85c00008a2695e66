import StreetLinkage.Proofs.PixelCenters

/-!
# The middle of a column lies in the column

A column has a longitude in its middle, and a longitude has a column. The two conversions together
take six floating operations, and each of them rounds in general. From the middle of a column none of
them does: the middle is a whole number of halves of a pixel, the world has a power of two of pixels,
and at most nine binary places are added by the degrees of a turn. So the distance that comes back is
exactly half a pixel more than the number of the column (`value?_middleDistance`), and cutting it off
gives this number (`toNat_clampPixel`) up to the largest world, and in the first and the last column,
too.
-/

namespace StreetLinkage.Mercator

open Binary64

section Columns

variable {zoom : UInt8}

/-! ### From the longitude back to the distance -/

/-- The world has twice as many halves of a pixel as pixels. -/
theorem two_pow_nine_add (k : ℕ) : (2 : ℝ) ^ (9 + k) = 2 * 2 ^ (8 + k) := by
  rw [← pow_succ', show 9 + k = 8 + k + 1 by ring]

/-- A longitude, counted from the antimeridian in degrees. -/
theorem value?_middleLon_add (hzoom : zoom ≤ maxZoom) (x : UInt32) :
    value? (pixelCenterLon x zoom + 180) =
      some (((2 * x.toNat + 1) / 2 ^ (8 + zoom.toNat) * 180 : ℝ) : EReal) := by
  have hk := le_maxZoom_iff.mp hzoom
  have hx := x.toNat_lt
  have h180 : value? 180 = some (((180 : ℕ) : ℝ) : EReal) := value?_ofNat (by norm_num)
  have hsum : -middleHeight zoom x.toNat * 180 + (180 : ℕ) =
      (2 * x.toNat + 1) / 2 ^ (8 + zoom.toNat) * 180 := by
    rw [middleHeight_eq_sub, two_pow_nine_add]
    push_cast
    field_simp
    ring
  rw [value?_add (value?_pixelCenterLon hzoom x) h180, ← EReal.coe_add, hsum, rounded_of_eq_div
    (z := (2 * x.toNat + 1) * 180) (d := 8 + zoom.toNat) (by omega) (by omega)]
  push_cast
  ring

/-- The share of the world to the west of the middle of a column is there again. -/
theorem value?_middleShare (hzoom : zoom ≤ maxZoom) (x : UInt32) :
    value? ((pixelCenterLon x zoom + 180) / 360) =
      some (((2 * x.toNat + 1) / 2 ^ (9 + zoom.toNat) : ℝ) : EReal) := by
  have hk := le_maxZoom_iff.mp hzoom
  have hx := x.toNat_lt
  have h360 : value? 360 = some (((360 : ℕ) : ℝ) : EReal) := value?_ofNat (by norm_num)
  have hshare : (2 * x.toNat + 1) / 2 ^ (8 + zoom.toNat) * 180 / (360 : ℕ) =
      ((2 * x.toNat + 1 : ℤ) / 2 ^ (9 + zoom.toNat) : ℝ) := by
    rw [two_pow_nine_add]
    push_cast
    field_simp
    norm_num
  rw [value?_div (value?_middleLon_add hzoom x) h360 (by norm_num),
    rounded_of_eq_div (by omega) (by omega) hshare, hshare]
  push_cast
  rfl

/-- **Nothing is lost on the way:** the distance of the middle of a column is half a pixel more than the
number of the column. -/
theorem value?_middleDistance (hzoom : zoom ≤ maxZoom) (x : UInt32) :
    value? ((pixelCenterLon x zoom + 180) / 360 * worldPixels zoom) =
      some ((x.toNat + 1 / 2 : ℝ) : EReal) := by
  have hx := x.toNat_lt
  have hdistance : (2 * x.toNat + 1) / 2 ^ (9 + zoom.toNat) * worldSize zoom =
      (x.toNat + 1 / 2 : ℝ) := by
    rw [worldSize_eq, two_pow_nine_add]
    push_cast
    field_simp
  rw [value?_mul (value?_middleShare hzoom x) (value?_worldPixels hzoom), hdistance,
    rounded_of_eq_div (z := 2 * x.toNat + 1) (d := 1) (by omega) (by norm_num)]
  push_cast
  ring

/-! ### From the distance to the column -/

/-- A distance inside a pixel of the world is cut off to this pixel. -/
theorem toNat_clampPixel (hzoom : zoom ≤ maxZoom) {distance : Float} {a : ℝ} {n : ℕ}
    (hdistance : value? distance = some (a : EReal)) (hlow : n ≤ a) (hhigh : a < n + 1)
    (hn : n < worldSize zoom) : (clampPixel distance zoom).toNat = n := by
  have hsize := PixelGrid.worldSize_le hzoom
  have hword : n ≤ 2 ^ 32 - 1 := Nat.le_sub_one_of_lt (hn.trans_le hsize)
  have hlast := value?_lastPixel hzoom
  show (if distance ≤ worldPixels zoom - 1 then distance else worldPixels zoom - 1).toUInt32.toNat = n
  by_cases hle : distance ≤ worldPixels zoom - 1
  · have hfloor : ⌊a⌋₊ = n := (Nat.floor_eq_iff (n.cast_nonneg.trans hlow)).mpr ⟨hlow, hhigh⟩
    rw [if_pos hle, toNat_toUInt32 hdistance, truncated_coe, hfloor, min_eq_left hword]
  · -- The last pixel is all that can lie behind its own western edge.
    have hgt : ((worldSize zoom - 1 : ℕ) : ℝ) < a := by
      rw [le_iff_of_value? hdistance hlast, EReal.coe_le_coe_iff] at hle
      exact not_le.mp hle
    have hlt : worldSize zoom - 1 < n + 1 := by exact_mod_cast hgt.trans hhigh
    have hn' : worldSize zoom - 1 = n := by omega
    rw [if_neg hle, toNat_toUInt32 hlast, truncated_coe, Nat.floor_natCast, hn', min_eq_left hword]

/-- The middle of a column is a longitude of the map. -/
theorem middleLon_bounds (hzoom : zoom ≤ maxZoom) {x : UInt32} (hx : x.toNat < worldSize zoom) :
    -180 ≤ pixelCenterLon x zoom ∧ pixelCenterLon x zoom ≤ 180 := by
  have h180 : value? 180 = some (((180 : ℕ) : ℝ) : EReal) := value?_ofNat (by norm_num)
  have hlon := value?_pixelCenterLon hzoom x
  have hheight := abs_lt.mp (abs_middleHeight_lt hx)
  constructor
  · rw [le_iff_of_value? (value?_neg h180) hlon, ← EReal.coe_neg, EReal.coe_le_coe_iff]
    push_cast
    linarith
  · rw [le_iff_of_value? hlon h180, EReal.coe_le_coe_iff]
    push_cast
    linarith

theorem lonToPixel_pixelCenterLon (hzoom : zoom ≤ maxZoom) {x : UInt32}
    (hx : x.toNat < worldSize zoom) : lonToPixel (pixelCenterLon x zoom) zoom = .ok x := by
  have hcolumn := toNat_clampPixel hzoom (value?_middleDistance hzoom x) (by linarith) (by linarith) hx
  exact lonToPixel_eq_ok_iff.mpr ⟨middleLon_bounds hzoom hx, hzoom, UInt32.toNat_inj.mp hcolumn⟩

end Columns

/-! ### Points of grids -/

/-- The column of a point lies in the world. -/
theorem PixelGrid.column_lt {g : PixelGrid} {index : Nat} {x : UInt32} (hindex : index < g.featureCount)
    (hx : g.column index = .ok x) : x.toNat < worldSize g.zoom := by
  obtain ⟨y, x', -, hx', hpixel, -⟩ := pixel_of_index hindex
  obtain rfl : x' = x := Except.ok.inj (hx'.symm.trans hx)
  exact hpixel.lt_world.2

/-- **The middle of a column lies in the column,** at every zoom level and in every column of the world.
So the longitude of a point of a grid leads back to the column of the point, and both are there for every
point. -/
theorem columns_of_middles :
    (∀ zoom : UInt8, zoom.toNat ≤ 24 → ∀ x : UInt32, x.toNat < 2 ^ (8 + zoom.toNat) →
      lonToPixel (pixelCenterLon x zoom) zoom = .ok x) ∧
    ∀ (g : PixelGrid) (index : Nat), index < g.featureCount →
      ∃ lon x, g.lon index = .ok lon ∧ g.column index = .ok x ∧ lonToPixel lon g.zoom = .ok x := by
  constructor
  · intro zoom hzoom x hx
    rw [← worldSize_eq] at hx
    exact lonToPixel_pixelCenterLon (le_maxZoom_iff.mpr hzoom) hx
  · intro g index hindex
    obtain ⟨x, hx, -⟩ := PixelGrid.exists_column hindex
    refine ⟨pixelCenterLon x g.zoom, x, ?_, hx, ?_⟩
    · rw [PixelGrid.lon, hx]
      rfl
    · exact lonToPixel_pixelCenterLon g.zoom_le (PixelGrid.column_lt hindex hx)

/-- The last column of the largest world, whose number is the last 32-bit word, on its own and as the
second point of a grid of two columns. -/
theorem columns_of_middles_at_antimeridian :
    lonToPixel (pixelCenterLon 4294967295 24) 24 = .ok 4294967295 ∧
    ∃ g, PixelGrid.new 24 4294967294 0 2 1 = .ok g ∧ 1 < g.featureCount ∧
      ∃ lon x, g.lon 1 = .ok lon ∧ g.column 1 = .ok x ∧ lonToPixel lon g.zoom = .ok x := by
  obtain ⟨hcolumn, hpoint⟩ := columns_of_middles
  obtain ⟨g, hg⟩ : ∃ g, PixelGrid.new 24 4294967294 0 2 1 = .ok g :=
    PixelGrid.exists_new_iff.mpr (by decide)
  obtain ⟨-, -, -, hwidth, hheight⟩ := PixelGrid.new_eq_ok_iff.mp hg
  have hcount : 1 < g.featureCount := by
    rw [PixelGrid.featureCount_eq, hwidth, hheight]
    decide
  exact ⟨hcolumn 24 (by decide) 4294967295 (by decide), g, hg, hcount, hpoint g 1 hcount⟩

end StreetLinkage.Mercator
