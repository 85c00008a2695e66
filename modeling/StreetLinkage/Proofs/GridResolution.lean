import Mathlib.Combinatorics.Pigeonhole
import StreetLinkage.Proofs.EnvelopeQuery
import StreetLinkage.Proofs.PixelCenters

/-!
# Up to which zoom level points are told apart

The points of a grid are indexed at the fixed-point degrees of the middles of their pixels. Whether a
query for the position of a point finds this point alone is a question of how far the middles are from
each other, in units of fixed-point degrees.

Columns are equally wide everywhere (`columnWidth`), and rows are as high at the equator and shrink
towards the poles (`rowHeight`). Cutting off keeps apart what is one unit apart on one side of zero; zero
itself stands for two units (`truncatedInt_lt`). Up to zoom level 20 this is enough for every row of the
map, and from 21 on it is not in the rows at the edge of the map.
-/

namespace StreetLinkage.Mercator

open Binary64

/-! ### Distances between middles -/

section Distances

variable {zoom : UInt8} {n n' : ℕ}

theorem middleHeight_sub (zoom : UInt8) (n n' : ℕ) :
    middleHeight zoom n - middleHeight zoom n' = 2 * (n' - n) / worldSize zoom := by
  rw [middleHeight, middleHeight, middleOffset, middleOffset, ← sub_div]
  push_cast
  ring

/-- The width of a column, in units of fixed-point degrees. -/
noncomputable def columnWidth (zoom : UInt8) : ℝ :=
  360 * unitsPerDegree / worldSize zoom

/-- The height of a row where its middle is, in units of fixed-point degrees: it shrinks with the cosine of
the latitude. -/
noncomputable def rowHeight (zoom : UInt8) (y : ℕ) : ℝ :=
  columnWidth zoom * Real.cos (gudermann (Real.pi * middleHeight zoom y))

theorem rowHeight_eq_div (zoom : UInt8) (y : ℕ) :
    rowHeight zoom y = columnWidth zoom / Real.cosh (Real.pi * middleHeight zoom y) := by
  rw [rowHeight, cos_gudermann, div_eq_mul_inv]

theorem columnWidth_eq_mul (zoom : UInt8) :
    columnWidth zoom = 1 / worldSize zoom * (360 * 10 ^ 7) := by
  rw [columnWidth, unitsPerDegree_cast]
  ring

theorem columnWidth_pos (zoom : UInt8) : 0 < columnWidth zoom := by
  have hpos : (0 : ℝ) < worldSize zoom := by exact_mod_cast worldSize_pos zoom
  rw [columnWidth, unitsPerDegree_cast]
  positivity

/-- A map with fewer pixels has wider columns. -/
theorem le_columnWidth {k : ℕ} (h : zoom.toNat ≤ k) : 360 * 10 ^ 7 / 2 ^ (8 + k) ≤ columnWidth zoom := by
  have hpos : (0 : ℝ) < worldSize zoom := by exact_mod_cast worldSize_pos zoom
  have hsize : (worldSize zoom : ℝ) ≤ 2 ^ (8 + k) := by
    rw [worldSize_eq]
    exact_mod_cast Nat.pow_le_pow_right (by norm_num) (by omega)
  rw [columnWidth, unitsPerDegree_cast]
  exact div_le_div_of_nonneg_left (by norm_num) hpos hsize

theorem columnWidth_le {k : ℕ} (h : k ≤ zoom.toNat) : columnWidth zoom ≤ 360 * 10 ^ 7 / 2 ^ (8 + k) := by
  have hsize : (2 : ℝ) ^ (8 + k) ≤ worldSize zoom := by
    rw [worldSize_eq]
    exact_mod_cast Nat.pow_le_pow_right (by norm_num) (by omega)
  rw [columnWidth, unitsPerDegree_cast]
  exact div_le_div_of_nonneg_left (by norm_num) (by positivity) hsize

theorem lonUnits_sub (zoom : UInt8) (n n' : ℕ) :
    lonUnits zoom n' - lonUnits zoom n = (n' - n) * columnWidth zoom := by
  have h := middleHeight_sub zoom n n'
  have hsplit : lonUnits zoom n' - lonUnits zoom n =
      (middleHeight zoom n - middleHeight zoom n') * (180 * 10 ^ 7) := by
    rw [lonUnits, lonUnits, unitsPerDegree_cast]
    ring
  rw [hsplit, h, columnWidth, unitsPerDegree_cast]
  ring

/-- A step on the map, in units, where the map is not stretched. -/
theorem pi_mul_sub_mul_unitsPerRadian (zoom : UInt8) (n n' : ℕ) :
    (Real.pi * middleHeight zoom n - Real.pi * middleHeight zoom n') * unitsPerRadian =
      (n' - n) * columnWidth zoom := by
  rw [← mul_sub, middleHeight_sub, unitsPerRadian, columnWidth]
  field_simp
  ring

theorem unitsPerRadian_pos : 0 < unitsPerRadian := by
  have := Real.pi_pos
  rw [unitsPerRadian, unitsPerDegree_cast]
  positivity

theorem middleHeight_anti (h : n ≤ n') : middleHeight zoom n' ≤ middleHeight zoom n := by
  have hstep := middleHeight_sub zoom n n'
  have hnonneg : (0 : ℝ) ≤ 2 * (n' - n) / worldSize zoom := by
    have : (n : ℝ) ≤ n' := by exact_mod_cast h
    exact div_nonneg (by linarith) (Nat.cast_nonneg _)
  linarith

/-- Latitudes fall to the south. -/
theorem latUnits_anti (h : n ≤ n') : latUnits zoom n' ≤ latUnits zoom n :=
  mul_le_mul_of_nonneg_right
    (gudermann_mono (mul_le_mul_of_nonneg_left (middleHeight_anti h) Real.pi_pos.le))
    unitsPerRadian_pos.le

/-- Two rows are as far from each other as the lower one of them is high, at least. -/
theorem le_latUnits_sub {r : ℝ} (h : n < n') (hr : r ≤ rowHeight zoom n) (hr' : r ≤ rowHeight zoom n') :
    r ≤ latUnits zoom n - latUnits zoom n' := by
  set u := Real.pi * middleHeight zoom n with hu
  set u' := Real.pi * middleHeight zoom n' with hu'
  have hle : u' ≤ u := mul_le_mul_of_nonneg_left (middleHeight_anti h.le) Real.pi_pos.le
  rw [rowHeight_eq_div] at hr hr'
  have hfar : r ≤ columnWidth zoom / Real.cosh (max |u| |u'|) := by
    rcases max_cases |u| |u'| with ⟨hmax, -⟩ | ⟨hmax, -⟩
    · rwa [hmax, Real.cosh_abs]
    · rwa [hmax, Real.cosh_abs]
  have hone : (1 : ℝ) ≤ n' - n := by
    have : (n + 1 : ℝ) ≤ n' := by exact_mod_cast h
    linarith
  have hwidth := columnWidth_pos zoom
  have hcosh := Real.cosh_pos (max |u| |u'|)
  calc r ≤ columnWidth zoom / Real.cosh (max |u| |u'|) := hfar
    _ ≤ (n' - n) * columnWidth zoom / Real.cosh (max |u| |u'|) := by
        gcongr
        exact le_mul_of_one_le_left hwidth.le hone
    _ = (u - u') / Real.cosh (max |u| |u'|) * unitsPerRadian := by
        rw [← pi_mul_sub_mul_unitsPerRadian]
        ring
    _ ≤ (gudermann u - gudermann u') * unitsPerRadian :=
        mul_le_mul_of_nonneg_right
          (le_gudermann_sub (le_max_right _ _) (le_max_left _ _) hle) unitsPerRadian_pos.le
    _ = latUnits zoom n - latUnits zoom n' := by
        rw [latUnits, latUnits, sub_mul]

/-! ### The two halves of the map -/

/-- Half the world is a whole number of pixels, so that no middle is in the middle of the map. -/
theorem middleOffset_ne_zero (zoom : UInt8) (n : ℕ) : middleOffset zoom n ≠ 0 := by
  have hsize : worldSize zoom = 2 * 2 ^ (7 + zoom.toNat) := by
    rw [worldSize_eq, ← pow_succ']
    congr 1
    omega
  unfold middleOffset
  omega

theorem le_middleHeight (h : 0 < middleOffset zoom n) : 1 / worldSize zoom ≤ middleHeight zoom n := by
  have hone : (1 : ℝ) ≤ middleOffset zoom n := by exact_mod_cast h
  exact div_le_div_of_nonneg_right hone (Nat.cast_nonneg _)

theorem middleHeight_le (h : middleOffset zoom n < 0) :
    middleHeight zoom n ≤ -(1 / worldSize zoom) := by
  have hone : (middleOffset zoom n : ℝ) ≤ -1 := by exact_mod_cast Int.le_sub_one_of_lt h
  rw [← neg_div]
  exact div_le_div_of_nonneg_right hone (Nat.cast_nonneg _)

/-- The first middle next to the equator is three tenths of a column away from it, at
least. -/
theorem le_gudermann_mul {c : ℝ} (h : 1 / worldSize zoom ≤ c) :
    3 / 10 * columnWidth zoom ≤ gudermann (Real.pi * c) * unitsPerRadian := by
  have hsize : (256 : ℝ) ≤ worldSize zoom := by
    rw [worldSize_eq, pow_add]
    exact_mod_cast Nat.le_mul_of_pos_right 256 (Nat.two_pow_pos zoom.toNat)
  have hpi := Real.pi_lt_four
  set u := Real.pi * (1 / worldSize zoom) with hu
  have hnonneg : 0 ≤ u := by positivity
  have hone : u ≤ 1 := by
    rw [hu, mul_one_div, div_le_one (by linarith)]
    linarith
  have hstep : u / Real.cosh 1 ≤ gudermann u := by
    simpa using le_gudermann_sub (b := 1) (by simp) (abs_le.mpr ⟨by linarith, hone⟩) hnonneg
  calc 3 / 10 * columnWidth zoom = u * unitsPerRadian / (5 / 3) := by
        rw [hu, columnWidth, unitsPerRadian]
        field_simp
        norm_num
    _ ≤ u * unitsPerRadian / Real.cosh 1 :=
        div_le_div_of_nonneg_left (mul_nonneg hnonneg unitsPerRadian_pos.le) (Real.cosh_pos 1)
          (cosh_one_lt.le.trans (by norm_num))
    _ = u / Real.cosh 1 * unitsPerRadian := by ring
    _ ≤ gudermann (Real.pi * c) * unitsPerRadian :=
        mul_le_mul_of_nonneg_right
          (hstep.trans (gudermann_mono (mul_le_mul_of_nonneg_left h Real.pi_pos.le)))
          unitsPerRadian_pos.le

theorem le_latUnits (h : 0 < middleOffset zoom n) : 3 / 10 * columnWidth zoom ≤ latUnits zoom n :=
  le_gudermann_mul (le_middleHeight h)

theorem latUnits_le (h : middleOffset zoom n < 0) :
    latUnits zoom n ≤ -(3 / 10 * columnWidth zoom) := by
  have hmirror := le_gudermann_mul (le_neg_of_le_neg (middleHeight_le h))
  rw [mul_neg, gudermann_neg, neg_mul] at hmirror
  exact le_neg_of_le_neg hmirror

theorem lonUnits_le (h : 0 < middleOffset zoom n) :
    lonUnits zoom n ≤ -(3 / 10 * columnWidth zoom) := by
  have hwest := le_middleHeight h
  have hpos : (0 : ℝ) ≤ 1 / worldSize zoom := by positivity
  rw [lonUnits, unitsPerDegree_cast, columnWidth_eq_mul]
  linarith

theorem le_lonUnits (h : middleOffset zoom n < 0) :
    3 / 10 * columnWidth zoom ≤ lonUnits zoom n := by
  have heast := middleHeight_le h
  have hpos : (0 : ℝ) ≤ 1 / worldSize zoom := by positivity
  rw [lonUnits, unitsPerDegree_cast, columnWidth_eq_mul]
  linarith

/-! ### Positions fit -/

theorem abs_latUnits_le (zoom : UInt8) (n : ℕ) : |latUnits zoom n| ≤ 2e9 := by
  have hunits : unitsPerRadian ≤ 60 * 10 ^ 7 := by
    have hpi := Real.pi_gt_three
    rw [unitsPerRadian, unitsPerDegree_cast]
    refine mul_le_mul_of_nonneg_right ?_ (by norm_num)
    rw [div_le_iff₀ (by linarith)]
    linarith
  have hangle := abs_gudermann_lt (Real.pi * middleHeight zoom n)
  rw [latUnits, abs_mul, abs_of_pos unitsPerRadian_pos]
  calc |gudermann (Real.pi * middleHeight zoom n)| * unitsPerRadian ≤ 1.6 * (60 * 10 ^ 7) :=
        mul_le_mul hangle.le hunits unitsPerRadian_pos.le (by norm_num)
    _ ≤ 2e9 := by norm_num

theorem abs_lonUnits_le (h : n < worldSize zoom) : |lonUnits zoom n| ≤ 2e9 := by
  have hheight := abs_middleHeight_lt h
  rw [lonUnits, unitsPerDegree_cast, abs_mul, abs_mul, abs_neg, abs_of_pos (by norm_num : (0 : ℝ) < 180),
    abs_of_pos (by norm_num : (0 : ℝ) < 10 ^ 7)]
  linarith

end Distances

/-! ### Middles that are told apart -/

/-- Positions that are a little more than one unit apart are cut off to different numbers, if they are in
one half of the map or both a little more than one unit away from its middle. -/
theorem truncatedInt_lt_of_near {p q a b : ℝ} (hp : |p - a| ≤ 0.002) (hq : |q - b| ≤ 0.002)
    (ha : |a| ≤ 2e9) (hb : |b| ≤ 2e9) (hstep : a + 1.01 ≤ b)
    (hside : 0.002 ≤ a ∨ b ≤ -0.002 ∨ a ≤ -1.002 ∧ 1.002 ≤ b) :
    truncatedInt p < truncatedInt q := by
  rw [abs_le] at hp hq ha hb
  refine truncatedInt_lt (by linarith) (by linarith) (by linarith) ?_
  rcases hside with hpos | hneg | ⟨hneg, hpos⟩
  · exact .inl (by linarith)
  · exact .inr (.inl (by linarith))
  · exact .inr (.inr ⟨by linarith, by linarith⟩)

section Apart

variable {zoom : UInt8} {t : InverseTrigonometry} {x x' y y' : UInt32}

/-- Are both middles in the same half of the map? -/
def SameHalf (zoom : UInt8) (n n' : ℕ) : Prop :=
  0 < middleOffset zoom n ↔ 0 < middleOffset zoom n'

theorem fixedLat_lt (ht : t.Accurate) (hzoom : zoom.toNat ≤ 23) (hlt : y.toNat < y'.toNat)
    (hy' : y'.toNat < worldSize zoom) (hhigh : 1.01 ≤ rowHeight zoom y.toNat)
    (hhigh' : 1.01 ≤ rowHeight zoom y'.toNat)
    (hhalf : zoom.toNat ≤ 22 ∨ SameHalf zoom y.toNat y'.toNat) :
    (floatingToFixed (pixelCenterLatBy t y' zoom)).toInt <
      (floatingToFixed (pixelCenterLatBy t y zoom)).toInt := by
  have hmax : zoom ≤ maxZoom := le_maxZoom_iff.mpr (by omega)
  obtain ⟨p, hcut, hp⟩ := exists_fixedLat ht hmax hy'
  obtain ⟨q, hcut', hq⟩ := exists_fixedLat ht hmax (hlt.trans hy')
  rw [hcut, hcut']
  refine truncatedInt_lt_of_near hp hq (abs_latUnits_le _ _) (abs_latUnits_le _ _) ?_ ?_
  · linarith [le_latUnits_sub hlt hhigh hhigh']
  have hwidth := le_columnWidth hzoom
  norm_num at hwidth
  rcases lt_or_gt_of_ne (middleOffset_ne_zero zoom y'.toNat) with hsouth' | hnorth'
  · rcases lt_or_gt_of_ne (middleOffset_ne_zero zoom y.toNat) with hsouth | hnorth
    · exact .inr (.inl (by linarith [latUnits_le hsouth]))
    · -- The equator is between the rows, which is possible up to zoom level 22 only.
      have hwidth' := le_columnWidth (hhalf.resolve_right fun h => hsouth'.not_gt (h.mp hnorth))
      norm_num at hwidth'
      exact .inr (.inr ⟨by linarith [latUnits_le hsouth'], by linarith [le_latUnits hnorth]⟩)
  · exact .inl (by linarith [le_latUnits hnorth'])

theorem fixedLon_lt (hzoom : zoom.toNat ≤ 23) (hlt : x.toNat < x'.toNat)
    (hx' : x'.toNat < worldSize zoom) (hhalf : zoom.toNat ≤ 22 ∨ SameHalf zoom x.toNat x'.toNat) :
    (floatingToFixed (pixelCenterLon x zoom)).toInt <
      (floatingToFixed (pixelCenterLon x' zoom)).toInt := by
  have hmax : zoom ≤ maxZoom := le_maxZoom_iff.mpr (by omega)
  obtain ⟨p, hcut, hp⟩ := exists_fixedLon hmax (hlt.trans hx')
  obtain ⟨q, hcut', hq⟩ := exists_fixedLon hmax hx'
  have hwidth := le_columnWidth hzoom
  norm_num at hwidth
  rw [hcut, hcut']
  refine truncatedInt_lt_of_near hp hq (abs_lonUnits_le (hlt.trans hx')) (abs_lonUnits_le hx') ?_ ?_
  · have hone : (1 : ℝ) ≤ x'.toNat - x.toNat := by
      have : (x.toNat + 1 : ℝ) ≤ x'.toNat := by exact_mod_cast hlt
      linarith
    have hstep := le_mul_of_one_le_left (columnWidth_pos zoom).le hone
    linarith [lonUnits_sub zoom x.toNat x'.toNat]
  rcases lt_or_gt_of_ne (middleOffset_ne_zero zoom x.toNat) with heast | hwest
  · exact .inl (by linarith [le_lonUnits heast])
  · rcases lt_or_gt_of_ne (middleOffset_ne_zero zoom x'.toNat) with heast' | hwest'
    · have hwidth' := le_columnWidth (hhalf.resolve_right fun h => heast'.not_gt (h.mp hwest))
      norm_num at hwidth'
      exact .inr (.inr ⟨by linarith [lonUnits_le hwest], by linarith [le_lonUnits heast']⟩)
    · exact .inr (.inl (by linarith [lonUnits_le hwest']))

theorem fixedLat_inj (ht : t.Accurate) (hzoom : zoom.toNat ≤ 23) (hy : y.toNat < worldSize zoom)
    (hy' : y'.toNat < worldSize zoom) (hhigh : 1.01 ≤ rowHeight zoom y.toNat)
    (hhigh' : 1.01 ≤ rowHeight zoom y'.toNat)
    (hhalf : zoom.toNat ≤ 22 ∨ SameHalf zoom y.toNat y'.toNat)
    (h : floatingToFixed (pixelCenterLatBy t y zoom) = floatingToFixed (pixelCenterLatBy t y' zoom)) :
    y = y' := by
  have hlat := congrArg Int32.toInt h
  rcases lt_trichotomy y.toNat y'.toNat with hlt | heq | hgt
  · exact absurd hlat (fixedLat_lt ht hzoom hlt hy' hhigh hhigh' hhalf).ne'
  · exact UInt32.toNat_inj.mp heq
  · exact absurd hlat (fixedLat_lt ht hzoom hgt hy hhigh' hhigh (hhalf.imp_right Iff.symm)).ne

theorem fixedLon_inj (hzoom : zoom.toNat ≤ 23) (hx : x.toNat < worldSize zoom)
    (hx' : x'.toNat < worldSize zoom) (hhalf : zoom.toNat ≤ 22 ∨ SameHalf zoom x.toNat x'.toNat)
    (h : floatingToFixed (pixelCenterLon x zoom) = floatingToFixed (pixelCenterLon x' zoom)) :
    x = x' := by
  have hlon := congrArg Int32.toInt h
  rcases lt_trichotomy x.toNat x'.toNat with hlt | heq | hgt
  · exact absurd hlon (fixedLon_lt hzoom hlt hx' hhalf).ne
  · exact UInt32.toNat_inj.mp heq
  · exact absurd hlon (fixedLon_lt hzoom hgt hx (hhalf.imp_right Iff.symm)).ne'

end Apart

/-! ### Grids whose points are told apart -/

namespace PixelGrid

variable {t : InverseTrigonometry} {g : PixelGrid} {i : ℕ}

/-- A query for the position of a point finds this point alone. -/
def ToldApart (t : InverseTrigonometry) (g : PixelGrid) : Prop :=
  ∃ index, SpatialIndex.buildBy t (.grid g) = .ok index ∧
    ∀ i < g.featureCount, ∃ c, (PointSource.grid g).fixedCoordinateBy t i = .ok c ∧
      index.query c c = [i]

/-- The position of the point in row `y` and column `x`. -/
theorem fixedCoordinateBy_of_pixel {x y : UInt32} (hrow : g.row i = .ok y)
    (hcolumn : g.column i = .ok x) :
    (PointSource.grid g).fixedCoordinateBy t i =
      .ok (.ofDegrees (pixelCenterLatBy t y g.zoom) (pixelCenterLon x g.zoom)) := by
  rw [PointSource.fixedCoordinateBy, PointSource.latBy, PointSource.lon, latBy, lon, hrow, hcolumn]
  rfl

/-- Points are told apart if no two of them have one position. -/
theorem toldApart_iff :
    g.ToldApart t ↔ ∀ i < g.featureCount, ∀ j < g.featureCount,
      (PointSource.grid g).fixedCoordinateBy t i = (PointSource.grid g).fixedCoordinateBy t j →
        i = j := by
  obtain ⟨coord, hcoord⟩ := (PointSource.grid g).exists_coordBy t
  have hbuild : SpatialIndex.buildBy t (.grid g) = .ok (.ofFn g.featureCount coord) :=
    SpatialIndex.buildBy_eq hcoord
  have hmem : ∀ c j, j ∈ (SpatialIndex.ofFn g.featureCount coord : SpatialIndex).query c c ↔
      j < g.featureCount ∧ coord j = c := by
    simp [SpatialIndex.query_ofFn_self]
  constructor
  · rintro ⟨index, hindex, hquery⟩ i hi j hj heq
    obtain rfl := Except.ok.inj (hbuild.symm.trans hindex)
    obtain ⟨c, hc, hself⟩ := hquery i hi
    have hcj : coord j = c := Except.ok.inj ((hcoord j hj).symm.trans (heq.symm.trans hc))
    have hfound := (hmem c j).mpr ⟨hj, hcj⟩
    rw [hself, List.mem_singleton] at hfound
    exact hfound.symm
  · intro hinj
    refine ⟨_, hbuild, fun i hi => ⟨coord i, hcoord i hi, ?_⟩⟩
    have hexact : (SpatialIndex.ofFn g.featureCount coord : SpatialIndex).Exact _ coord :=
      SpatialIndex.exact_ofFn g.featureCount coord
    have hnodup := (hexact.ascending (coord i) (coord i)).imp Nat.ne_of_lt
    refine List.perm_singleton.mp ((List.perm_ext_iff_of_nodup hnodup (List.nodup_singleton i)).mpr ?_)
    intro j
    rw [hmem, List.mem_singleton]
    constructor
    · rintro ⟨hj, heq⟩
      refine hinj j hj i hi ?_
      rw [hcoord j hj, hcoord i hi, heq]
    · rintro rfl
      exact ⟨hi, rfl⟩

/-- What is enough for the points of a grid to be told apart: rows that are higher than one unit, and at
zoom level 23 no equator and no prime meridian inside the grid. -/
structure Resolved (g : PixelGrid) : Prop where
  zoom_le : g.zoom.toNat ≤ 23
  high : ∀ y, g.north.toNat ≤ y → y < g.north.toNat + g.height.toNat → 1.01 ≤ rowHeight g.zoom y
  halves : g.zoom.toNat ≤ 22 ∨
    (g.north.toNat + g.height.toNat ≤ worldSize g.zoom / 2 ∨ worldSize g.zoom / 2 ≤ g.north.toNat) ∧
      (g.west.toNat + g.width.toNat ≤ worldSize g.zoom / 2 ∨ worldSize g.zoom / 2 ≤ g.west.toNat)

/-- A run of pixels that ends before the middle of the map, or begins there, is in one half. -/
theorem sameHalf_of_run {zoom : UInt8} {start length n n' : ℕ}
    (h : start + length ≤ worldSize zoom / 2 ∨ worldSize zoom / 2 ≤ start)
    (hn : start ≤ n ∧ n < start + length) (hn' : start ≤ n' ∧ n' < start + length) :
    SameHalf zoom n n' := by
  unfold SameHalf middleOffset
  omega

theorem Resolved.toldApart (hg : g.Resolved) (ht : t.Accurate) : g.ToldApart t := by
  rw [toldApart_iff]
  intro i hi j hj heq
  obtain ⟨y, x, hrow, hcolumn, hpixel, rfl⟩ := pixel_of_index hi
  obtain ⟨y', x', hrow', hcolumn', hpixel', rfl⟩ := pixel_of_index hj
  rw [fixedCoordinateBy_of_pixel hrow hcolumn, fixedCoordinateBy_of_pixel hrow' hcolumn'] at heq
  have hcoord := Except.ok.inj heq
  have hy : y = y' := by
    refine fixedLat_inj ht hg.zoom_le hpixel.lt_world.1 hpixel'.lt_world.1
      (hg.high _ hpixel.north_le hpixel.lt_south) (hg.high _ hpixel'.north_le hpixel'.lt_south) ?_
      (congrArg FixedCoord.lat hcoord)
    exact hg.halves.imp_right fun h => sameHalf_of_run h.1 ⟨hpixel.north_le, hpixel.lt_south⟩
      ⟨hpixel'.north_le, hpixel'.lt_south⟩
  have hx : x = x' := by
    refine fixedLon_inj hg.zoom_le hpixel.lt_world.2 hpixel'.lt_world.2 ?_
      (congrArg FixedCoord.lon hcoord)
    exact hg.halves.imp_right fun h => sameHalf_of_run h.2 ⟨hpixel.west_le, hpixel.lt_east⟩
      ⟨hpixel'.west_le, hpixel'.lt_east⟩
  rw [hy, hx]

/-- Up to zoom level 20, the rows at the edge of the map are high enough, too. -/
theorem resolved_of_zoom_le (h : g.zoom.toNat ≤ 20) : g.Resolved where
  zoom_le := by omega
  high y _ hsouth := by
    have hheight := abs_middleHeight_lt (hsouth.trans_le g.south_le)
    have hcosh : Real.cosh (Real.pi * middleHeight g.zoom y) ≤ 11.8 := by
      refine (Real.cosh_le_cosh.mpr ?_).trans cosh_pi_lt.le
      rw [abs_mul]
      exact mul_le_of_le_one_right (abs_nonneg _) hheight.le
    have hwidth := le_columnWidth h
    norm_num at hwidth
    rw [rowHeight_eq_div, le_div_iff₀ (Real.cosh_pos _)]
    linarith
  halves := .inl (by omega)

end PixelGrid

/-! ### Rows at the edge of the map -/

section Edge

variable {t : InverseTrigonometry} {zoom : UInt8}

/-- From zoom level 21 on, the first four rows of the map are less than two units of latitude high. -/
theorem latUnits_edge (hlow : 21 ≤ zoom.toNat) : latUnits zoom 0 - latUnits zoom 3 ≤ 1.8 := by
  have hwidth := columnWidth_le hlow
  norm_num at hwidth
  have hstep := pi_mul_sub_mul_unitsPerRadian zoom 0 3
  set u := Real.pi * middleHeight zoom 0
  set v := Real.pi * middleHeight zoom 3 with hv
  have hnorth : 3.14 ≤ v := by
    have hpi := Real.pi_gt_d4
    have hpow : (2 : ℝ) ^ 30 ≤ 2 ^ (9 + zoom.toNat) := pow_le_pow_right₀ (by norm_num) (by omega)
    have hshare : (2 * (3 : ℕ) + 1 : ℝ) / 2 ^ (9 + zoom.toNat) ≤ 7 / 2 ^ 30 := by
      push_cast
      norm_num
      exact div_le_div_of_nonneg_left (by norm_num) (by norm_num) (by linarith)
    have hheight : 0.9999 ≤ middleHeight zoom 3 := by
      rw [middleHeight_eq_sub]
      linarith
    calc (3.14 : ℝ) ≤ 3.1415 * 0.9999 := by norm_num
      _ ≤ v := mul_le_mul hpi.le hheight (by norm_num) Real.pi_pos.le
  have hcosh := lt_cosh_of_le hnorth
  have hle : v ≤ u := mul_le_mul_of_nonneg_left (middleHeight_anti (by norm_num)) Real.pi_pos.le
  calc latUnits zoom 0 - latUnits zoom 3 = (gudermann u - gudermann v) * unitsPerRadian :=
        (sub_mul _ _ _).symm
    _ ≤ (u - v) / Real.cosh v * unitsPerRadian :=
        mul_le_mul_of_nonneg_right (gudermann_sub_le (by linarith) le_rfl hle) unitsPerRadian_pos.le
    _ = 3 * columnWidth zoom / Real.cosh v := by
        rw [div_mul_eq_mul_div, hstep]
        norm_num
    _ ≤ 1.8 := by
        rw [div_le_iff₀ (by linarith)]
        linarith

/-- Their fixed-point latitudes are three numbers at most. -/
theorem fixedLat_edge (ht : t.Accurate) (hlow : 21 ≤ zoom.toNat) (hzoom : zoom ≤ maxZoom) :
    ∃ f : ℤ, ∀ y : UInt32, y.toNat < 4 →
      (floatingToFixed (pixelCenterLatBy t y zoom)).toInt ∈ Finset.Icc f (f + 2) := by
  have hsize : 2 ^ 29 ≤ worldSize zoom :=
    worldSize_eq zoom ▸ Nat.pow_le_pow_right (by norm_num) (by omega)
  have hedge := latUnits_edge hlow
  have hwidth := le_columnWidth (le_maxZoom_iff.mp hzoom)
  norm_num at hwidth
  have hoffset : 0 < middleOffset zoom 3 := by
    unfold middleOffset
    omega
  have hpos := le_latUnits hoffset
  refine ⟨⌊latUnits zoom 3 - 0.002⌋, fun y hy => ?_⟩
  obtain ⟨p, hcut, hp⟩ := exists_fixedLat ht hzoom (y := y) (by omega)
  have hlower : latUnits zoom 3 ≤ latUnits zoom y.toNat := latUnits_anti (by omega)
  have hupper : latUnits zoom y.toNat ≤ latUnits zoom 0 := latUnits_anti (Nat.zero_le _)
  have hfit := abs_latUnits_le zoom y.toNat
  rw [abs_le] at hp hfit
  rw [hcut, truncatedInt_eq_floor (by linarith) (by linarith), Finset.mem_Icc]
  constructor
  · exact Int.floor_le_floor (by linarith)
  · have hfloor : ⌊p⌋ ≤ ⌊latUnits zoom 3 - 0.002 + 2⌋ := Int.floor_le_floor (by linarith)
    rwa [Int.floor_add_ofNat] at hfloor

/-- Two of four rows have one of three latitudes. -/
theorem exists_row_pair_at_edge (ht : t.Accurate) (hlow : 21 ≤ zoom.toNat) (hzoom : zoom ≤ maxZoom) :
    ∃ i < 4, ∃ j < 4, i ≠ j ∧
      floatingToFixed (pixelCenterLatBy t (.ofNat i) zoom) =
        floatingToFixed (pixelCenterLatBy t (.ofNat j) zoom) := by
  obtain ⟨f, hf⟩ := fixedLat_edge ht hlow hzoom
  have hmaps : ∀ i ∈ Finset.range 4,
      (floatingToFixed (pixelCenterLatBy t (.ofNat i) zoom)).toInt ∈ Finset.Icc f (f + 2) := by
    intro i hi
    rw [Finset.mem_range] at hi
    exact hf (.ofNat i) (by rw [UInt32.toNat_ofNat_of_lt' (hi.trans (by decide))]; exact hi)
  have hcard : (Finset.Icc f (f + 2)).card < (Finset.range 4).card := by
    rw [Int.card_Icc, Finset.card_range]
    omega
  obtain ⟨i, hi, j, hj, hne, heq⟩ := Finset.exists_ne_map_eq_of_card_lt_of_maps_to hcard hmaps
  exact ⟨i, Finset.mem_range.mp hi, j, Finset.mem_range.mp hj, hne, Int32.toInt_inj.mp heq⟩

end Edge

namespace PixelGrid

variable {t : InverseTrigonometry} {g : PixelGrid}

/-- A grid of the first four rows of the map has two points in one place. -/
theorem not_toldApart_of_edge (ht : t.Accurate) (hlow : 21 ≤ g.zoom.toNat) (hnorth : g.north = 0)
    (hwidth : g.width = 1) (hheight : g.height = 4) : ¬g.ToldApart t := by
  have hcount : g.featureCount = 4 := by
    rw [featureCount_eq, hwidth, hheight]
    rfl
  have hpoint : ∀ i < 4, (PointSource.grid g).fixedCoordinateBy t i =
      .ok (.ofDegrees (pixelCenterLatBy t (.ofNat i) g.zoom) (pixelCenterLon g.west g.zoom)) := by
    intro i hi
    obtain ⟨y, hrow, hy⟩ := exists_row (hcount.symm ▸ hi)
    obtain ⟨x, hcolumn, hx⟩ := exists_column (hcount.symm ▸ hi)
    have hy' : y = .ofNat i := by
      rw [← UInt32.toNat_inj, hy, UInt32.toNat_ofNat_of_lt' (hi.trans (by decide)), hnorth, hwidth]
      simp
    have hx' : x = g.west := by
      rw [← UInt32.toNat_inj, hx, hwidth]
      simp [Nat.mod_one]
    rw [fixedCoordinateBy_of_pixel hrow hcolumn, hy', hx']
  obtain ⟨i, hi, j, hj, hne, heq⟩ := exists_row_pair_at_edge ht hlow g.zoom_le
  intro hapart
  refine hne (toldApart_iff.mp hapart i (hcount.symm ▸ hi) j (hcount.symm ▸ hj) ?_)
  rw [hpoint i hi, hpoint j hj, FixedCoord.ofDegrees, FixedCoord.ofDegrees, heq]

/-- Such a grid is accepted. -/
theorem exists_grid_at_edge (ht : t.Accurate) {zoom : UInt8} (hlow : 21 ≤ zoom.toNat)
    (hzoom : zoom ≤ maxZoom) : ∃ g, new zoom 0 0 1 4 = .ok g ∧ ¬g.ToldApart t := by
  have hsize : 4 ≤ worldSize zoom := by
    have hpow : 2 ^ 2 ≤ 2 ^ (8 + zoom.toNat) := Nat.pow_le_pow_right (by norm_num) (by omega)
    exact hpow.trans_eq (worldSize_eq zoom).symm
  obtain ⟨g, hg⟩ : ∃ g, new zoom 0 0 1 4 = .ok g := by
    refine exists_new_iff.mpr ⟨hzoom, ?_, ?_⟩
    · exact Nat.le_trans (by decide) hsize
    · exact Nat.le_trans (by decide) hsize
  obtain ⟨rfl, -, hnorth, hwidth, hheight⟩ := new_eq_ok_iff.mp hg
  exact ⟨g, hg, not_toldApart_of_edge ht hlow hnorth hwidth hheight⟩

/-! ### Queries for the position of a point -/

/-- A query for the position of a point finds all points that are there. -/
theorem exists_query_self (t : InverseTrigonometry) (g : PixelGrid) :
    ∃ index, SpatialIndex.buildBy t (.grid g) = .ok index ∧ ∀ i < g.featureCount, ∃ c,
      (PointSource.grid g).fixedCoordinateBy t i = .ok c ∧
        index.query c c = (List.range g.featureCount).filter fun j =>
          (PointSource.grid g).fixedCoordinateBy t j = .ok c := by
  obtain ⟨coord, hcoord⟩ := (PointSource.grid g).exists_coordBy t
  refine ⟨_, SpatialIndex.buildBy_eq hcoord, fun i hi => ⟨coord i, hcoord i hi, ?_⟩⟩
  rw [SpatialIndex.query_ofFn_self]
  refine List.filter_congr fun j hj => ?_
  simp [hcoord j (List.mem_range.mp hj)]

/-- Whatever was done with a point set before, its queries are those of the index of its grid. -/
theorem pointsInEnvelope_grid {σ : Type} {f : Forest} {p : PointSet σ} (hp : Reachable f p)
    (hsource : p.source = .grid g) (a b : FixedCoord) (w : World σ) :
    (p.pointsInEnvelope a b w).1 =
      (SpatialIndex.buildBy .standard (.grid g)).map fun index => index.query a b := by
  rw [PointSet.pointsInEnvelope_fst, PointSet.spatialIndex_fst hp.indexed, hsource]
  rfl

/-- **Up to which zoom level points are told apart.** Let the hyperbolic sine and the arctangent be wrong
by `1e-12` at most. Then the points of every accepted grid are told apart up to zoom level 20, and so are
those of other grids up to zoom level 23 whose rows are high enough (`Resolved`). From zoom level 21 on
there is a grid at the edge of the map whose points are not.

Points are told apart exactly if no two of them have one position; in any case, a query for the position of
a point finds all points that are there. This is said of the index of a grid, and point sets are asked
through this index. -/
theorem points_told_apart (ht : t.Accurate) :
    (∀ zoom west north width height g, new zoom west north width height = .ok g →
      zoom.toNat ≤ 20 → g.ToldApart t) ∧
    (∀ g : PixelGrid, g.Resolved → g.ToldApart t) ∧
    (∀ zoom : UInt8, 21 ≤ zoom.toNat → zoom ≤ maxZoom →
      ∃ g, new zoom 0 0 1 4 = .ok g ∧ ¬g.ToldApart t) ∧
    (∀ g : PixelGrid, (g.ToldApart t ↔ ∀ i < g.featureCount, ∀ j < g.featureCount,
        (PointSource.grid g).fixedCoordinateBy t i = (PointSource.grid g).fixedCoordinateBy t j →
          i = j) ∧
      ∃ index, SpatialIndex.buildBy t (.grid g) = .ok index ∧ ∀ i < g.featureCount, ∃ c,
        (PointSource.grid g).fixedCoordinateBy t i = .ok c ∧
          index.query c c = (List.range g.featureCount).filter fun j =>
            (PointSource.grid g).fixedCoordinateBy t j = .ok c) ∧
    ∀ (σ : Type) (f : Forest) (p : PointSet σ) (g : PixelGrid), Reachable f p → p.source = .grid g →
      ∀ a b w, (p.pointsInEnvelope a b w).1 =
        (SpatialIndex.buildBy .standard (.grid g)).map fun index => index.query a b := by
  refine ⟨?_, fun g hg => hg.toldApart ht, fun zoom hlow hzoom => exists_grid_at_edge ht hlow hzoom,
    fun g => ⟨toldApart_iff, exists_query_self t g⟩,
    fun σ f p g hp hsource => pointsInEnvelope_grid hp hsource⟩
  intro zoom west north width height g h hzoom
  obtain ⟨rfl, -⟩ := new_eq_ok_iff.mp h
  exact (resolved_of_zoom_le hzoom).toldApart ht

/-- The first four rows of the map, with correctly rounded functions: at zoom level 20 the points are
told apart, and at zoom level 21 they are not. -/
theorem points_told_apart_at_edge :
    InverseTrigonometry.best.Accurate ∧
    (∃ g, new 20 0 0 1 4 = .ok g ∧ g.ToldApart .best) ∧
      ∃ g, new 21 0 0 1 4 = .ok g ∧ ¬g.ToldApart .best := by
  obtain ⟨hapart, -, hedge, -⟩ := points_told_apart InverseTrigonometry.accurate_best
  obtain ⟨g, hg⟩ : ∃ g, new 20 0 0 1 4 = .ok g := exists_new_iff.mpr (by decide)
  exact ⟨InverseTrigonometry.accurate_best, ⟨g, hg, hapart 20 0 0 1 4 g hg (by decide)⟩,
    hedge 21 (by decide) (by decide)⟩

/-- At zoom level 23, the two columns beside the prime meridian have one longitude, whatever the functions
of the platform are: of two neighbouring pixels there, a query for one finds both. -/
theorem neighbours_at_prime_meridian_not_told_apart :
    ∃ g, new 23 1073741823 1073741823 2 1 = .ok g ∧
      ∃ c, (PointSource.grid g).fixedCoordinate 0 = .ok c ∧
        (PointSource.grid g).fixedCoordinate 1 = .ok c ∧
        ∀ (σ : Type) (id : PointSetId) (linker : Linker σ) (config : CacheConfig) (w : World σ),
          ((PointSet.new id (PointSource.grid g) linker config).pointsInEnvelope c c w).1 =
            .ok [0, 1] := by
  obtain ⟨g, hg⟩ : ∃ g, new 23 1073741823 1073741823 2 1 = .ok g := exists_new_iff.mpr (by decide)
  obtain ⟨hzoom, hwest, hnorth, hwidth, hheight⟩ := new_eq_ok_iff.mp hg
  have hrow : ∀ i < 2, g.row i = .ok 1073741823 := by
    intro i hi
    rw [row, hwidth, hnorth]
    obtain rfl | rfl : i = 0 ∨ i = 1 := by omega
    · decide
    · decide
  have hcolumn : g.column 0 = .ok 1073741823 ∧ g.column 1 = .ok 1073741824 := by
    rw [column, column, hwidth, hwest]
    decide
  have hlon : floatingToFixed (pixelCenterLon 1073741824 23) =
      floatingToFixed (pixelCenterLon 1073741823 23) := by decide +kernel
  have hcoord : ∀ i < 2, (PointSource.grid g).fixedCoordinate i =
      .ok (.ofDegrees (pixelCenterLat 1073741823 23) (pixelCenterLon 1073741823 23)) := by
    intro i hi
    obtain rfl | rfl : i = 0 ∨ i = 1 := by omega
    · have hpoint := fixedCoordinateBy_of_pixel (t := .standard) (hrow 0 hi) hcolumn.1
      rw [hzoom] at hpoint
      exact hpoint
    · have hpoint := fixedCoordinateBy_of_pixel (t := .standard) (hrow 1 hi) hcolumn.2
      rw [hzoom, FixedCoord.ofDegrees, hlon] at hpoint
      exact hpoint
  refine ⟨g, hg, _, hcoord 0 (by decide), hcoord 1 (by decide), fun σ id linker config w => ?_⟩
  have hcount : (PointSource.grid g).featureCount = 2 := by
    rw [PointSource.featureCount, featureCount_eq, hwidth, hheight]
    rfl
  have hnew := Reachable.new (f := .ofList []) id (PointSource.grid g) linker config
  rw [hnew.pointsInEnvelope_fst fun i hi => hcoord i (hcount ▸ hi)]
  show Except.ok ((List.range (PointSource.grid g).featureCount).filter _) = _
  rw [hcount, List.filter_eq_self.mpr]
  · rfl
  · intro i _
    exact Envelope.contains_ofCorners_iff_between.mpr (FixedCoord.between_self_iff.mpr rfl)

end PixelGrid

end StreetLinkage.Mercator
