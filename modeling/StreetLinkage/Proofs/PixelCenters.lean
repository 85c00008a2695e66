import StreetLinkage.Proofs.FixedDegrees
import StreetLinkage.Proofs.GridIndexing
import StreetLinkage.Proofs.Gudermann
import StreetLinkage.Proofs.Projection

/-!
# Where the middles of pixels are

The middle of a pixel has an exact position over the reals, in units of fixed-point degrees:
`latUnits` of its row and `lonUnits` of its column. What is computed for it is cut off from a number
near this position.

For a longitude every step before the last multiplication is exact (`exists_fixedLon`). The latitude
passes through the hyperbolic sine and the arctangent of a mathematics library. These may be wrong by
`1e-12`, which is many times what libraries promise (`InverseTrigonometry.Accurate`); all errors
together then stay below `0.002` units (`exists_fixedLat`).
-/

namespace StreetLinkage.Mercator

open Binary64

/-! ### Exact positions -/

/-- How far the middle of a row or a column is from the middle of the map, in halves of a pixel: to the
north or to the west if it is positive. -/
def middleOffset (zoom : UInt8) (n : ℕ) : ℤ :=
  worldSize zoom - (2 * n + 1)

/-- The same distance in halves of the map. -/
noncomputable def middleHeight (zoom : UInt8) (n : ℕ) : ℝ :=
  middleOffset zoom n / worldSize zoom

/-- Units of fixed-point degrees in a degree. -/
def unitsPerDegree : ℕ := 10 ^ 7

@[simp] theorem unitsPerDegree_cast : (unitsPerDegree : ℝ) = 10 ^ 7 := by
  norm_num [unitsPerDegree]

/-- Units of fixed-point degrees in a radian. -/
noncomputable def unitsPerRadian : ℝ := 180 / Real.pi * unitsPerDegree

/-- The latitude in the middle of a row, in units of fixed-point degrees. -/
noncomputable def latUnits (zoom : UInt8) (y : ℕ) : ℝ :=
  gudermann (Real.pi * middleHeight zoom y) * unitsPerRadian

/-- The longitude in the middle of a column, in units of fixed-point degrees. -/
noncomputable def lonUnits (zoom : UInt8) (x : ℕ) : ℝ :=
  -middleHeight zoom x * 180 * unitsPerDegree

theorem middleHeight_eq_div (zoom : UInt8) (n : ℕ) :
    middleHeight zoom n = middleOffset zoom n / 2 ^ (8 + zoom.toNat) := by
  have hsize : (worldSize zoom : ℝ) = 2 ^ (8 + zoom.toNat) := by exact_mod_cast worldSize_eq zoom
  rw [middleHeight, hsize]

theorem middleHeight_eq_sub (zoom : UInt8) (n : ℕ) :
    middleHeight zoom n = 1 - 2 * ((2 * n + 1) / 2 ^ (9 + zoom.toNat)) := by
  rw [middleHeight_eq_div, middleOffset, worldSize_eq]
  push_cast
  rw [show 9 + zoom.toNat = 1 + (8 + zoom.toNat) by ring, pow_add]
  field_simp
  ring

section Middles

variable {zoom : UInt8}

theorem abs_middleHeight_lt {n : ℕ} (hn : n < worldSize zoom) : |middleHeight zoom n| < 1 := by
  have hpos : (0 : ℝ) < worldSize zoom := by exact_mod_cast worldSize_pos zoom
  have hoffset : (middleOffset zoom n).natAbs < worldSize zoom := by
    unfold middleOffset
    omega
  rw [middleHeight, abs_div, abs_of_pos hpos, div_lt_one hpos, ← Int.cast_abs, ← Nat.cast_natAbs]
  exact_mod_cast hoffset

/-! ### Steps without rounding -/

theorem natAbs_middleOffset_le (hzoom : zoom ≤ maxZoom) (n : UInt32) :
    (middleOffset zoom n.toNat).natAbs ≤ 2 ^ 33 := by
  have hsize : worldSize zoom ≤ 2 ^ 32 := PixelGrid.worldSize_le hzoom
  have hn := n.toNat_lt
  unfold middleOffset
  omega

/-- The share of the map to the west of the middle of a column, or to the north of that of a row. -/
theorem value?_share (hzoom : zoom ≤ maxZoom) (n : UInt32) :
    value? ((n.toFloat + 0.5) / worldPixels zoom) =
      some (((2 * n.toNat + 1) / 2 ^ (9 + zoom.toNat) : ℝ) : EReal) := by
  have hk := le_maxZoom_iff.mp hzoom
  have hn := n.toNat_lt
  have hpos : (worldSize zoom : ℝ) ≠ 0 := by exact_mod_cast (worldSize_pos zoom).ne'
  have hhalf : value? 0.5 = some ((1 / 2 : ℝ) : EReal) := by
    have h : value? 0.5 = some ((signed .positive ((2 ^ 52 : ℕ) * 2 ^ (-53 : ℤ)) : ℝ) : EReal) := rfl
    rw [h]
    norm_num [signed]
  have hmiddle : value? (n.toFloat + 0.5) = some ((n.toNat + 1 / 2 : ℝ) : EReal) := by
    rw [value?_add (value?_toFloat n) hhalf, ← EReal.coe_add,
      rounded_of_eq_div (z := 2 * n.toNat + 1) (d := 1) (by omega) (by norm_num)]
    push_cast
    ring
  have hshare : (n.toNat + 1 / 2) / worldSize zoom =
      ((2 * n.toNat + 1 : ℤ) / 2 ^ (9 + zoom.toNat) : ℝ) := by
    rw [worldSize_eq]
    push_cast
    ring
  rw [value?_div hmiddle (value?_worldPixels hzoom) hpos,
    rounded_of_eq_div (by omega) (by omega) hshare, hshare]
  push_cast
  rfl

/-- The longitude in the middle of a column is exact. -/
theorem value?_pixelCenterLon (hzoom : zoom ≤ maxZoom) (x : UInt32) :
    value? (pixelCenterLon x zoom) = some ((-middleHeight zoom x.toNat * 180 : ℝ) : EReal) := by
  have hk := le_maxZoom_iff.mp hzoom
  have hx := x.toNat_lt
  have hoffset := natAbs_middleOffset_le hzoom x
  have h360 : value? 360 = some (((360 : ℕ) : ℝ) : EReal) := value?_ofNat (by norm_num)
  have h180 : value? 180 = some (((180 : ℕ) : ℝ) : EReal) := value?_ofNat (by norm_num)
  have hturn : value? ((x.toFloat + 0.5) / worldPixels zoom * 360) =
      some (((2 * x.toNat + 1) / 2 ^ (9 + zoom.toNat) * (360 : ℕ) : ℝ) : EReal) := by
    rw [value?_mul (value?_share hzoom x) h360, rounded_of_eq_div (z := (2 * x.toNat + 1) * 360)
      (d := 9 + zoom.toNat) (by omega) (by omega)]
    push_cast
    ring
  have hlon : (2 * x.toNat + 1) / 2 ^ (9 + zoom.toNat) * (360 : ℕ) - (180 : ℕ) =
      -middleHeight zoom x.toNat * 180 := by
    rw [middleHeight_eq_sub]
    push_cast
    ring
  show value? ((x.toFloat + 0.5) / worldPixels zoom * 360 - 180) = _
  rw [value?_sub hturn h180, ← EReal.coe_sub, hlon, rounded_of_eq_div
    (z := middleOffset zoom x.toNat * -180) (d := 8 + zoom.toNat) (by omega) (by omega)]
  rw [middleHeight_eq_div]
  push_cast
  ring

/-- The height in the middle of a row is exact. -/
theorem value?_middleHeight (hzoom : zoom ≤ maxZoom) (y : UInt32) :
    value? (1 - 2 * ((y.toFloat + 0.5) / worldPixels zoom)) =
      some (middleHeight zoom y.toNat : EReal) := by
  have hk := le_maxZoom_iff.mp hzoom
  have hy := y.toNat_lt
  have hoffset := natAbs_middleOffset_le hzoom y
  have h2 : value? 2 = some (((2 : ℕ) : ℝ) : EReal) := value?_ofNat (by norm_num)
  have h1 : value? 1 = some (((1 : ℕ) : ℝ) : EReal) := value?_ofNat (by norm_num)
  have hdouble : value? (2 * ((y.toFloat + 0.5) / worldPixels zoom)) =
      some (((2 : ℕ) * ((2 * y.toNat + 1) / 2 ^ (9 + zoom.toNat)) : ℝ) : EReal) := by
    rw [value?_mul h2 (value?_share hzoom y), rounded_of_eq_div (z := 2 * (2 * y.toNat + 1))
      (d := 9 + zoom.toNat) (by omega) (by omega)]
    push_cast
    ring
  have hheight : (1 : ℕ) - (2 : ℕ) * ((2 * y.toNat + 1) / 2 ^ (9 + zoom.toNat)) =
      middleHeight zoom y.toNat := by
    rw [middleHeight_eq_sub]
    push_cast
    ring
  rw [value?_sub h1 hdouble, ← EReal.coe_sub, hheight,
    rounded_of_eq_div (by omega) (by omega) (middleHeight_eq_div zoom y.toNat)]

/-! ### Steps that round -/

theorem exists_value?_pi_near :
    ∃ b : ℝ, value? pi = some (b : EReal) ∧ (3.14 ≤ b ∧ b ≤ 3.15) ∧
      |b - Real.pi| ≤ 2 ^ (-52 : ℤ) := by
  have hlow := Real.pi_gt_d20
  have hhigh := Real.pi_lt_d20
  refine ⟨_, value?_pi, by norm_num, ?_⟩
  rw [abs_le]
  norm_num
  constructor <;> linarith

/-- Functions that are wrong by `1e-12` at most: the hyperbolic sine of numbers that are not far from
the heights on the map, and the arctangent. -/
structure InverseTrigonometry.Accurate (t : InverseTrigonometry) : Prop where
  sinh {x : Float} {a : ℝ} : value? x = some (a : EReal) → |a| ≤ 4 →
    ∃ b : ℝ, value? (t.sinh x) = some (b : EReal) ∧ |b - Real.sinh a| ≤ 1e-12
  atan {x : Float} {a : ℝ} : value? x = some (a : EReal) →
    ∃ b : ℝ, value? (t.atan x) = some (b : EReal) ∧ |b - Real.arctan a| ≤ 1e-12

/-- The floating number nearest to a real number. -/
noncomputable def nearestFloat (a : ℝ) : Float :=
  (exists_value?_eq_rounded a).choose

theorem value?_nearestFloat (a : ℝ) : value? (nearestFloat a) = some (rounded a) :=
  (exists_value?_eq_rounded a).choose_spec

/-- A function of real numbers, computed with a single rounding. -/
noncomputable def correctlyRounded (f : ℝ → ℝ) (x : Float) : Float :=
  nearestFloat (f ((value? x).getD 0).toReal)

theorem value?_correctlyRounded (f : ℝ → ℝ) {x : Float} {a : ℝ} (h : value? x = some (a : EReal)) :
    value? (correctlyRounded f x) = some (rounded (f a)) := by
  rw [correctlyRounded, h, Option.getD_some, EReal.toReal_coe, value?_nearestFloat]

/-- The best functions that the format has. -/
noncomputable def InverseTrigonometry.best : InverseTrigonometry where
  sinh := correctlyRounded Real.sinh
  atan := correctlyRounded Real.arctan

theorem InverseTrigonometry.accurate_best : best.Accurate where
  sinh {x a} hx ha := by
    obtain ⟨b, hb, hround⟩ := exists_rounded_eq (x := Real.sinh a) (k := 6) (by norm_num)
      (by norm_num) ((abs_sinh_le ha).trans_lt (by norm_num))
    exact ⟨b, (value?_correctlyRounded _ hx).trans (congrArg some hb), hround.trans (by norm_num)⟩
  atan {x a} hx := by
    have hbound : |Real.arctan a| < 2 ^ (1 : ℤ) := by
      have hpi := Real.pi_lt_four
      rw [abs_lt]
      constructor <;> norm_num
      · linarith [Real.neg_pi_div_two_lt_arctan a]
      · linarith [Real.arctan_lt_pi_div_two a]
    obtain ⟨b, hb, hround⟩ := exists_rounded_eq (by norm_num) (by norm_num) hbound
    exact ⟨b, (value?_correctlyRounded _ hx).trans (congrArg some hb), hround.trans (by norm_num)⟩

variable {t : InverseTrigonometry} {y : UInt32}

theorem exists_value?_height (hzoom : zoom ≤ maxZoom) (hy : y.toNat < worldSize zoom) :
    ∃ u : ℝ, value? (pi * (1 - 2 * ((y.toFloat + 0.5) / worldPixels zoom))) = some (u : EReal) ∧
      |u| ≤ 4 ∧ |u - Real.pi * middleHeight zoom y.toNat| ≤ 2 ^ (-51 : ℤ) := by
  set h := middleHeight zoom y.toNat
  have hh : |h| < 1 := abs_middleHeight_lt hy
  obtain ⟨b, hb, ⟨hlow, hhigh⟩, hpi⟩ := exists_value?_pi_near
  have hbound : |b| ≤ 3.15 := abs_le.mpr ⟨by linarith, hhigh⟩
  have hproduct : |b * h| ≤ 3.15 := by
    rw [abs_mul]
    exact (mul_le_mul hbound hh.le (abs_nonneg h) (by norm_num)).trans_eq (mul_one _)
  obtain ⟨u, hu, hround⟩ := exists_rounded_eq (x := b * h) (k := 2) (by norm_num) (by norm_num)
    (hproduct.trans_lt (by norm_num))
  have hscaled : |b * h - Real.pi * h| ≤ 2 ^ (-52 : ℤ) := by
    rw [← sub_mul, abs_mul]
    exact (mul_le_mul hpi hh.le (abs_nonneg h) (by norm_num)).trans_eq (mul_one _)
  refine ⟨u, ?_, ?_, ?_⟩
  · rw [value?_mul hb (value?_middleHeight hzoom y), hu]
  · have hsmall : |u - b * h| ≤ 0.1 := hround.trans (by norm_num)
    linarith [abs_sub_abs_le_abs_sub u (b * h)]
  · calc |u - Real.pi * h| ≤ |u - b * h| + |b * h - Real.pi * h| := abs_sub_le _ _ _
      _ ≤ 2 ^ (2 - 54 : ℤ) + 2 ^ (-52 : ℤ) := add_le_add hround hscaled
      _ = 2 ^ (-51 : ℤ) := by norm_num

/-- The latitude in radians: what the two functions are wrong by is not made larger, as the slope of the
arctangent is one at most. -/
theorem exists_value?_latRadians (ht : t.Accurate) (hzoom : zoom ≤ maxZoom)
    (hy : y.toNat < worldSize zoom) :
    ∃ a : ℝ, value? (t.atan (t.sinh (pi * (1 - 2 * ((y.toFloat + 0.5) / worldPixels zoom))))) =
        some (a : EReal) ∧
      |a - gudermann (Real.pi * middleHeight zoom y.toNat)| ≤ 2.1e-12 := by
  obtain ⟨u, hu, hbound, hheight⟩ := exists_value?_height hzoom hy
  obtain ⟨s, hs, hsinh⟩ := ht.sinh hu hbound
  obtain ⟨a, ha, hatan⟩ := ht.atan hs
  refine ⟨a, ha, ?_⟩
  have hslope : |Real.arctan s - gudermann u| ≤ 1e-12 := (abs_arctan_sub_le _ _).trans hsinh
  have hgudermann := (abs_gudermann_sub_le u (Real.pi * middleHeight zoom y.toNat)).trans hheight
  calc |a - gudermann (Real.pi * middleHeight zoom y.toNat)|
      ≤ |a - Real.arctan s| + |Real.arctan s - gudermann (Real.pi * middleHeight zoom y.toNat)| :=
        abs_sub_le _ _ _
    _ ≤ |a - Real.arctan s| + (|Real.arctan s - gudermann u| +
          |gudermann u - gudermann (Real.pi * middleHeight zoom y.toNat)|) :=
        add_le_add_right (abs_sub_le _ _ _) _
    _ ≤ 1e-12 + (1e-12 + 2 ^ (-51 : ℤ)) := add_le_add hatan (add_le_add hslope hgudermann)
    _ ≤ 2.1e-12 := by norm_num

/-- A quotient by nearly the same divisor. -/
theorem abs_div_sub_div_le {a g b c : ℝ} (hb : 3 ≤ b) (hc : 3 ≤ c) :
    |a / b - g / c| ≤ |a - g| / 3 + |g| * |b - c| / 9 := by
  have hsplit : a / b - g / c = (a - g) / b + g * (c - b) / (b * c) := by
    have hb' : b ≠ 0 := by linarith
    have hc' : c ≠ 0 := by linarith
    field_simp
    ring
  have hproduct : 9 ≤ b * c := by nlinarith
  rw [hsplit]
  refine (abs_add_le _ _).trans (add_le_add ?_ ?_)
  · rw [abs_div, abs_of_pos (by linarith : 0 < b)]
    exact div_le_div_of_nonneg_left (abs_nonneg _) (by norm_num) hb
  · rw [abs_div, abs_mul, abs_sub_comm c, abs_of_pos (by linarith : 0 < b * c)]
    exact div_le_div_of_nonneg_left (by positivity) (by norm_num) hproduct

/-- From radians to degrees, the product. -/
theorem exists_value?_mul_180 {z : Float} {a g : ℝ} (hz : value? z = some (a : EReal))
    (hg : |g| < 1.6) (hnear : |a - g| ≤ 2.1e-12) :
    ∃ m : ℝ, value? (z * 180) = some (m : EReal) ∧ |m - g * 180| ≤ 3.8e-10 := by
  have h180 : value? 180 = some (((180 : ℕ) : ℝ) : EReal) := value?_ofNat (by norm_num)
  have hscale : ∀ r : ℝ, |r * (180 : ℕ)| = |r| * 180 := by
    intro r
    rw [abs_mul, Nat.abs_cast, Nat.cast_ofNat]
  have hscaled : |a * (180 : ℕ)| ≤ 306 := by
    rw [hscale]
    linarith [abs_sub_abs_le_abs_sub a g]
  obtain ⟨m, hm, hround⟩ := exists_rounded_eq (k := 9) (by norm_num) (by norm_num)
    (hscaled.trans_lt (by norm_num))
  refine ⟨m, (value?_mul hz h180).trans (congrArg some hm), ?_⟩
  calc |m - g * 180| ≤ |m - a * (180 : ℕ)| + |a * (180 : ℕ) - g * (180 : ℕ)| := abs_sub_le _ _ _
    _ = |m - a * (180 : ℕ)| + |a - g| * 180 := by rw [← sub_mul, hscale]
    _ ≤ 2 ^ (9 - 54 : ℤ) + 2.1e-12 * 180 :=
      add_le_add hround (mul_le_mul_of_nonneg_right hnear (by norm_num))
    _ ≤ 3.8e-10 := by norm_num

/-- From radians to degrees, the quotient: the divisor is not exact, either. -/
theorem exists_value?_div_pi {z : Float} {m r : ℝ} (hz : value? z = some (m : EReal))
    (hr : |r| ≤ 288) (hnear : |m - r| ≤ 3.8e-10) :
    ∃ d : ℝ, value? (z / pi) = some (d : EReal) ∧ |d - r / Real.pi| ≤ 1.5e-10 := by
  obtain ⟨b, hb, ⟨hlow, hhigh⟩, hpi⟩ := exists_value?_pi_near
  have hquotient : |m / b| ≤ 99 := by
    rw [abs_div, abs_of_pos (by linarith : 0 < b), div_le_iff₀ (by linarith)]
    linarith [abs_sub_abs_le_abs_sub m r]
  obtain ⟨d, hd, hround⟩ := exists_rounded_eq (k := 7) (by norm_num) (by norm_num)
    (hquotient.trans_lt (by norm_num))
  refine ⟨d, (value?_div hz hb (by linarith)).trans (congrArg some hd), ?_⟩
  calc |d - r / Real.pi| ≤ |d - m / b| + |m / b - r / Real.pi| := abs_sub_le _ _ _
    _ ≤ 2 ^ (7 - 54 : ℤ) + (|m - r| / 3 + |r| * |b - Real.pi| / 9) :=
        add_le_add hround (abs_div_sub_div_le (by linarith) Real.pi_gt_three.le)
    _ ≤ 2 ^ (7 - 54 : ℤ) + (3.8e-10 / 3 + 288 * 2 ^ (-52 : ℤ) / 9) := by gcongr
    _ ≤ 1.5e-10 := by norm_num

/-! ### Fixed-point degrees of the middles -/

/-- The number from which fixed-point degrees are cut off is within `2 ^ -23` units of the degrees. -/
theorem exists_fixed {z : Float} {d : ℝ} (hz : value? z = some (d : EReal)) (hd : |d| ≤ 180) :
    ∃ p : ℝ, (floatingToFixed z).toInt = truncatedInt p ∧ |p - d * 10 ^ 7| ≤ 2 ^ (-23 : ℤ) := by
  have hscaled : |d * 10 ^ 7| < 2 ^ (31 : ℤ) := by
    rw [abs_mul, abs_of_pos (by norm_num : (0 : ℝ) < 10 ^ 7)]
    refine lt_of_le_of_lt (mul_le_mul_of_nonneg_right hd (by norm_num)) ?_
    norm_num
  obtain ⟨p, hp, hround⟩ := exists_rounded_eq (by norm_num) (by norm_num) hscaled
  refine ⟨p, ?_, hround⟩
  rw [toInt_floatingToFixed hz, ← EReal.coe_mul, hp]

theorem exists_fixedLon (hzoom : zoom ≤ maxZoom) {x : UInt32} (hx : x.toNat < worldSize zoom) :
    ∃ p : ℝ, (floatingToFixed (pixelCenterLon x zoom)).toInt = truncatedInt p ∧
      |p - lonUnits zoom x.toNat| ≤ 0.002 := by
  have hlon : |-middleHeight zoom x.toNat * 180| ≤ 180 := by
    have := abs_middleHeight_lt hx
    rw [abs_mul, abs_neg, abs_of_pos (by norm_num : (0 : ℝ) < 180)]
    linarith
  obtain ⟨p, hp, hround⟩ := exists_fixed (value?_pixelCenterLon hzoom x) hlon
  refine ⟨p, hp, ?_⟩
  rw [lonUnits, unitsPerDegree_cast]
  exact hround.trans (by norm_num)

/-- **The fixed-point latitude of a row is cut off from a number within `0.002` units of its exact
latitude.** -/
theorem exists_fixedLat (ht : t.Accurate) (hzoom : zoom ≤ maxZoom) (hy : y.toNat < worldSize zoom) :
    ∃ p : ℝ, (floatingToFixed (pixelCenterLatBy t y zoom)).toInt = truncatedInt p ∧
      |p - latUnits zoom y.toNat| ≤ 0.002 := by
  obtain ⟨a, ha, hradians⟩ := exists_value?_latRadians ht hzoom hy
  set g := gudermann (Real.pi * middleHeight zoom y.toNat) with hg
  have hangle : |g| < 1.6 := abs_gudermann_lt _
  have hscaled : |g * 180| ≤ 288 := by
    rw [abs_mul, abs_of_pos (by norm_num : (0 : ℝ) < 180)]
    linarith
  obtain ⟨m, hm, hdegrees⟩ := exists_value?_mul_180 ha hangle hradians
  obtain ⟨d, hd, hnear⟩ := exists_value?_div_pi hm hscaled hdegrees
  have hbound : |d| ≤ 180 := by
    have hlat : |g * 180 / Real.pi| ≤ 96 := by
      rw [abs_div, abs_of_pos Real.pi_pos, div_le_iff₀ Real.pi_pos]
      linarith [Real.pi_gt_three]
    linarith [abs_sub_abs_le_abs_sub d (g * 180 / Real.pi)]
  obtain ⟨p, hp, hround⟩ := exists_fixed hd hbound
  have hunits : latUnits zoom y.toNat = g * 180 / Real.pi * 10 ^ 7 := by
    rw [latUnits, unitsPerRadian, unitsPerDegree_cast, hg]
    ring
  refine ⟨p, hp, ?_⟩
  calc |p - latUnits zoom y.toNat|
      ≤ |p - d * 10 ^ 7| + |d * 10 ^ 7 - latUnits zoom y.toNat| := abs_sub_le _ _ _
    _ = |p - d * 10 ^ 7| + |d - g * 180 / Real.pi| * 10 ^ 7 := by
        rw [hunits, ← sub_mul, abs_mul, abs_of_pos (by norm_num : (0 : ℝ) < 10 ^ 7)]
    _ ≤ 2 ^ (-23 : ℤ) + 1.5e-10 * 10 ^ 7 :=
        add_le_add hround (mul_le_mul_of_nonneg_right hnear (by norm_num))
    _ ≤ 0.002 := by norm_num

end Middles

end StreetLinkage.Mercator
