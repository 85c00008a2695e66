import StreetLinkage.Mercator.Grid
import StreetLinkage.Proofs.Binary64.Whole

/-!
# The projection keeps the order of positions

The pixel of a position is found by a chain of operations on floating numbers, and each of them
rounds. As rounding keeps the order, so does the chain: columns grow to the east (`lonToPixel_mono`)
and rows grow to the south (`latToPixelBy_anti`), at every zoom level. For the rows the tangent and
the inverse hyperbolic sine must keep the order, too (`Trigonometry.Monotone`); nothing else is
asked of them, and no bound on their error. The last pixel of the world is never passed
(`lonToPixel_lt`, `latToPixelBy_lt`).
-/

namespace StreetLinkage.Mercator

open Binary64

/-- A quarter of a turn in radians, rounded down. -/
def quarterTurn : Float := 1.5707963267948966

/-- Functions that keep the order: the tangent of angles of at most a quarter of a turn either way,
and the inverse hyperbolic sine of all numbers. -/
structure Trigonometry.Monotone (t : Trigonometry) : Prop where
  tan_le {x y : Float} : -quarterTurn ≤ x → x ≤ y → y ≤ quarterTurn → t.tan x ≤ t.tan y
  asinh_le {x y : Float} : x ≤ y → t.asinh x ≤ t.asinh y

/-! ### Constants -/

theorem value?_pi : value? pi = some (((7074237752028440 : ℕ) * 2 ^ (-51 : ℤ) : ℝ) : EReal) :=
  rfl

theorem exists_value?_pi : ∃ b : ℝ, 0 < b ∧ value? pi = some (b : EReal) :=
  ⟨_, by positivity, value?_pi⟩

theorem worldSize_pos (zoom : UInt8) : 0 < worldSize zoom :=
  Nat.mul_pos (by decide) (Nat.pow_pos (by decide))

section Pixels

variable {zoom : UInt8} {x y : Float}

theorem value?_worldPixels (hzoom : zoom ≤ maxZoom) :
    value? (worldPixels zoom) = some ((worldSize zoom : ℝ) : EReal) :=
  value?_ofNat ((PixelGrid.worldSize_le hzoom).trans_lt (by decide))

/-- The number of the last pixel is exact. -/
theorem value?_lastPixel (hzoom : zoom ≤ maxZoom) :
    value? (worldPixels zoom - 1) = some (((worldSize zoom - 1 : ℕ) : ℝ) : EReal) := by
  have hone : value? (1 : Float) = some ((1 : ℕ) : ℝ) := value?_ofNat (by norm_num)
  have hlast : (worldSize zoom : ℝ) - (1 : ℕ) = (worldSize zoom - 1 : ℕ) :=
    (Nat.cast_sub (worldSize_pos zoom)).symm
  have hsize := PixelGrid.worldSize_le hzoom
  have hplaces : worldSize zoom - 1 ≤ 2 ^ 53 :=
    ((Nat.sub_le _ 1).trans hsize).trans (by decide)
  rw [value?_sub (value?_worldPixels hzoom) hone, ← EReal.coe_sub, hlast, rounded_natCast hplaces]

theorem lastPixel_le_self (hzoom : zoom ≤ maxZoom) : worldPixels zoom - 1 ≤ worldPixels zoom - 1 :=
  le_iff.mpr ⟨_, _, value?_lastPixel hzoom, value?_lastPixel hzoom, le_rfl⟩

/-! ### Pixels of distances -/

theorem clampPixel_mono (hzoom : zoom ≤ maxZoom) (h : x ≤ y) :
    (clampPixel x zoom).toNat ≤ (clampPixel y zoom).toNat :=
  toUInt32_mono (minimum_le_minimum h (lastPixel_le_self hzoom))

/-- Whatever the distance is, its pixel is in the world. -/
theorem clampPixel_lt (hzoom : zoom ≤ maxZoom) (x : Float) :
    (clampPixel x zoom).toNat < worldSize zoom := by
  have hlast := toUInt32_mono (minimum_le_right x (lastPixel_le_self hzoom))
  rw [toNat_toUInt32 (value?_lastPixel hzoom), truncated_coe, Nat.floor_natCast] at hlast
  calc (clampPixel x zoom).toNat ≤ worldSize zoom - 1 := hlast.trans (min_le_left _ _)
    _ < worldSize zoom := Nat.sub_one_lt (worldSize_pos zoom).ne'

theorem mul_worldPixels_mono (hzoom : zoom ≤ maxZoom) (h : x ≤ y) :
    x * worldPixels zoom ≤ y * worldPixels zoom :=
  mul_le_mul_right_of_pos h (value?_worldPixels hzoom) (by exact_mod_cast worldSize_pos zoom)

end Pixels

/-! ### Columns -/

section Columns

variable {zoom : UInt8} {lon lon' : Float} {x x' : UInt32}

theorem lonToPixel_eq_ok_iff :
    lonToPixel lon zoom = .ok x ↔
      (-180 ≤ lon ∧ lon ≤ 180) ∧ zoom ≤ maxZoom ∧
        clampPixel ((lon + 180) / 360 * worldPixels zoom) zoom = x := by
  unfold lonToPixel
  by_cases hrange : -180 ≤ lon ∧ lon ≤ 180
  · by_cases hzoom : maxZoom < zoom
    · simp [hrange, hzoom, UInt8.not_le.mpr hzoom]
    · simp [hrange, hzoom, UInt8.not_lt.mp hzoom]
  · rw [if_pos (by simpa [imp_iff_not_or] using hrange)]
    simp [hrange]

/-- A longitude is refused for itself or for the zoom level, not for the size of a grid. -/
theorem lonToPixel_cases (lon : Float) (zoom : UInt8) :
    (∃ x, lonToPixel lon zoom = .ok x) ∨ ∃ reason, lonToPixel lon zoom = .error reason ∧
      ∀ width height, reason ≠ .gridTooLarge width height := by
  unfold lonToPixel
  split
  · exact .inr ⟨_, rfl, nofun⟩
  · split
    · exact .inr ⟨_, rfl, nofun⟩
    · exact .inl ⟨_, rfl⟩

theorem lonToPixel_lt (h : lonToPixel lon zoom = .ok x) : x.toNat < worldSize zoom := by
  obtain ⟨-, hzoom, rfl⟩ := lonToPixel_eq_ok_iff.mp h
  exact clampPixel_lt hzoom _

/-- Columns grow to the east. -/
theorem lonToPixel_mono (h : lonToPixel lon zoom = .ok x) (h' : lonToPixel lon' zoom = .ok x')
    (hle : lon ≤ lon') : x.toNat ≤ x'.toNat := by
  obtain ⟨-, hzoom, rfl⟩ := lonToPixel_eq_ok_iff.mp h
  obtain ⟨-, -, rfl⟩ := lonToPixel_eq_ok_iff.mp h'
  have hsum : lon + 180 ≤ lon' + 180 :=
    add_le_add_right_of_finite hle (value?_ofNat (by norm_num))
  have hturn : (lon + 180) / 360 ≤ (lon' + 180) / 360 :=
    div_le_div_right_of_pos hsum (value?_ofNat (by norm_num)) (by norm_num)
  exact clampPixel_mono hzoom (mul_worldPixels_mono hzoom hturn)

end Columns

/-! ### Rows -/

theorem radians_mono {lat lat' : Float} (h : lat ≤ lat') : lat * pi / 180 ≤ lat' * pi / 180 := by
  obtain ⟨b, hb, hpi⟩ := exists_value?_pi
  exact div_le_div_right_of_pos (mul_le_mul_right_of_pos h hpi hb) (value?_ofNat (by norm_num))
    (by norm_num)

/-- The angle of a latitude that can be projected is at most a quarter of a turn. -/
theorem radians_bounded {lat : Float} (h : minLat ≤ lat ∧ lat ≤ maxLat) :
    -quarterTurn ≤ lat * pi / 180 ∧ lat * pi / 180 ≤ quarterTurn := by
  have hsouth : -quarterTurn ≤ minLat * pi / 180 := by decide
  have hnorth : maxLat * pi / 180 ≤ quarterTurn := by decide
  exact ⟨le_trans hsouth (radians_mono h.1), le_trans (radians_mono h.2) hnorth⟩

section Rows

variable {t : Trigonometry} {zoom : UInt8} {lat lat' : Float} {y y' : UInt32}

theorem latToPixelBy_eq_ok_iff :
    latToPixelBy t lat zoom = .ok y ↔
      (minLat ≤ lat ∧ lat ≤ maxLat) ∧ zoom ≤ maxZoom ∧
        clampPixel ((1 - t.asinh (t.tan (lat * pi / 180)) / pi) / 2 * worldPixels zoom) zoom = y := by
  unfold latToPixelBy
  by_cases hrange : minLat ≤ lat ∧ lat ≤ maxLat
  · by_cases hzoom : maxZoom < zoom
    · simp [hrange, hzoom, UInt8.not_le.mpr hzoom]
    · simp [hrange, hzoom, UInt8.not_lt.mp hzoom]
  · rw [if_pos (by simpa [imp_iff_not_or] using hrange)]
    simp [hrange]

/-- A latitude is refused for itself or for the zoom level, not for the size of a grid. -/
theorem latToPixelBy_cases (t : Trigonometry) (lat : Float) (zoom : UInt8) :
    (∃ y, latToPixelBy t lat zoom = .ok y) ∨ ∃ reason, latToPixelBy t lat zoom = .error reason ∧
      ∀ width height, reason ≠ .gridTooLarge width height := by
  unfold latToPixelBy
  split
  · exact .inr ⟨_, rfl, nofun⟩
  · split
    · exact .inr ⟨_, rfl, nofun⟩
    · exact .inl ⟨_, rfl⟩

theorem latToPixelBy_lt (h : latToPixelBy t lat zoom = .ok y) : y.toNat < worldSize zoom := by
  obtain ⟨-, hzoom, rfl⟩ := latToPixelBy_eq_ok_iff.mp h
  exact clampPixel_lt hzoom _

/-- Rows grow to the south. -/
theorem latToPixelBy_anti (ht : t.Monotone) (h : latToPixelBy t lat zoom = .ok y)
    (h' : latToPixelBy t lat' zoom = .ok y') (hle : lat ≤ lat') : y'.toNat ≤ y.toNat := by
  obtain ⟨hrange, hzoom, rfl⟩ := latToPixelBy_eq_ok_iff.mp h
  obtain ⟨hrange', -, rfl⟩ := latToPixelBy_eq_ok_iff.mp h'
  obtain ⟨b, hb, hpi⟩ := exists_value?_pi
  have hheight : t.asinh (t.tan (lat * pi / 180)) ≤ t.asinh (t.tan (lat' * pi / 180)) :=
    ht.asinh_le (ht.tan_le (radians_bounded hrange).1 (radians_mono hle) (radians_bounded hrange').2)
  -- The distance is measured from the north, so the order is reversed here and kept from here on.
  have hnorth : 1 - t.asinh (t.tan (lat' * pi / 180)) / pi ≤
      1 - t.asinh (t.tan (lat * pi / 180)) / pi :=
    sub_le_sub_left_of_finite (div_le_div_right_of_pos hheight hpi hb) (value?_ofNat (by norm_num))
  have hworld : (1 - t.asinh (t.tan (lat' * pi / 180)) / pi) / 2 ≤
      (1 - t.asinh (t.tan (lat * pi / 180)) / pi) / 2 :=
    div_le_div_right_of_pos hnorth (value?_ofNat (by norm_num)) (by norm_num)
  exact clampPixel_mono hzoom (mul_worldPixels_mono hzoom hworld)

end Rows

end StreetLinkage.Mercator
