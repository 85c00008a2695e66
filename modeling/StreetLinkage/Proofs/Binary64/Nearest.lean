import Mathlib

/-!
# Rounding to binary64

What a floating operation does to its exact result, said over the reals and without bits. The result
is put on the grid of its magnitude, whose step is one unit of the last of 53 binary places and
never less than `2 ^ -1074`; the nearest place on the grid is taken, the even one of two
(`nearest`). What reaches `2 ^ 1024` is infinite (`rounded`).

The two laws that everything else builds on: rounding keeps the order (`rounded_mono`), also from
one grid to the next, and it moves nothing that is on a grid already (`nearest_of_places`).
-/

namespace StreetLinkage.Binary64

/-! ### The nearest whole number -/

/-- The whole number nearest to a number that is not negative, the even one of two. -/
noncomputable def nearestWhole (y : ℝ) : ℕ :=
  if y - ⌊y⌋₊ < 1 / 2 then ⌊y⌋₊
  else if 1 / 2 < y - ⌊y⌋₊ then ⌊y⌋₊ + 1
  else ⌊y⌋₊ + ⌊y⌋₊ % 2

theorem floor_le_nearestWhole (y : ℝ) : ⌊y⌋₊ ≤ nearestWhole y := by
  unfold nearestWhole
  split_ifs <;> omega

theorem nearestWhole_le_floor_add_one (y : ℝ) : nearestWhole y ≤ ⌊y⌋₊ + 1 := by
  unfold nearestWhole
  split_ifs <;> omega

@[simp] theorem nearestWhole_natCast (n : ℕ) : nearestWhole n = n := by
  simp [nearestWhole]

theorem nearestWhole_mono {x y : ℝ} (h : x ≤ y) : nearestWhole x ≤ nearestWhole y := by
  rcases (Nat.floor_mono h).lt_or_eq with hlt | heq
  · exact (nearestWhole_le_floor_add_one x).trans
      ((Nat.succ_le_of_lt hlt).trans (floor_le_nearestWhole y))
  · -- On one floor the part above it decides, and that of `y` is the larger one.
    unfold nearestWhole
    rw [heq]
    split_ifs <;> first | omega | (exfalso; linarith)

theorem nearestWhole_le {y : ℝ} {n : ℕ} (h : y ≤ n) : nearestWhole y ≤ n :=
  (nearestWhole_mono h).trans_eq (nearestWhole_natCast n)

theorem le_nearestWhole {y : ℝ} {n : ℕ} (h : n ≤ y) : n ≤ nearestWhole y :=
  (nearestWhole_natCast n).symm.trans_le (nearestWhole_mono h)

theorem nearestWhole_of_lt_half {y : ℝ} {n : ℕ} (hle : n ≤ y) (hlt : y < n + 1 / 2) :
    nearestWhole y = n := by
  have hfloor : ⌊y⌋₊ = n := (Nat.floor_eq_iff (n.cast_nonneg.trans hle)).mpr ⟨hle, by linarith⟩
  rw [nearestWhole, hfloor, if_pos (by linarith)]

theorem nearestWhole_of_half_lt {y : ℝ} {n : ℕ} (hlt : n + 1 / 2 < y) (hle : y ≤ n + 1) :
    nearestWhole y = n + 1 := by
  rcases hle.lt_or_eq with h | rfl
  · have hfloor : ⌊y⌋₊ = n :=
      (Nat.floor_eq_iff (by linarith [n.cast_nonneg (α := ℝ)])).mpr ⟨by linarith, h⟩
    rw [nearestWhole, hfloor, if_neg (by linarith), if_pos (by linarith)]
  · exact_mod_cast nearestWhole_natCast (n + 1)

/-- The middle between a whole number and the next. -/
noncomputable def middle (n : ℕ) : ℝ := n + 1 / 2

/-- In the middle between two whole numbers, the even one is taken. -/
theorem nearestWhole_middle (n : ℕ) : nearestWhole (middle n) = n + n % 2 := by
  unfold middle
  have hfloor : ⌊(n + 1 / 2 : ℝ)⌋₊ = n :=
    (Nat.floor_eq_iff (by positivity)).mpr ⟨by linarith, by linarith⟩
  rw [nearestWhole, hfloor, if_neg (by linarith), if_neg (by linarith)]

/-- A number less than a half away from a whole number is rounded to it. -/
theorem nearestWhole_of_abs_sub_lt {y : ℝ} {n : ℕ} (hy : 0 ≤ y) (h : |y - n| < 1 / 2) :
    nearestWhole y = n := by
  obtain ⟨hlow, hhigh⟩ := abs_lt.mp h
  rcases le_or_gt (n : ℝ) y with hle | hlt
  · exact nearestWhole_of_lt_half hle (by linarith)
  · obtain ⟨k, rfl⟩ : ∃ k, n = k + 1 := Nat.exists_eq_succ_of_ne_zero <| by
      rintro rfl
      exact hlt.not_ge (by simpa using hy)
    push_cast at hlow hlt
    exact nearestWhole_of_half_lt (by linarith) (by linarith)

/-- Rounding moves a number by a half at most. -/
theorem abs_nearestWhole_sub_le {y : ℝ} (h : 0 ≤ y) : |(nearestWhole y : ℝ) - y| ≤ 1 / 2 := by
  have hlow := Nat.floor_le h
  have hhigh := Nat.lt_floor_add_one y
  have hparity : ((⌊y⌋₊ % 2 : ℕ) : ℝ) ≤ 1 := by
    exact_mod_cast Nat.le_of_lt_succ (Nat.mod_lt ⌊y⌋₊ (by decide))
  have hparity' : (0 : ℝ) ≤ (⌊y⌋₊ % 2 : ℕ) := Nat.cast_nonneg _
  unfold nearestWhole
  split_ifs <;> push_cast <;> rw [abs_le] <;> constructor <;> linarith

/-! ### Quotients of whole numbers -/

/-- A quotient is its whole part and the share of the remainder. -/
theorem natCast_div_eq (n : ℕ) {d : ℕ} (hd : 0 < d) :
    (n : ℝ) / d = (n / d : ℕ) + ((n % d : ℕ) : ℝ) / d := by
  have hpos : (0 : ℝ) < d := by exact_mod_cast hd
  have hsum : ((n % d : ℕ) : ℝ) + d * ((n / d : ℕ) : ℝ) = n := by exact_mod_cast Nat.mod_add_div n d
  field_simp
  linarith

/-- A quotient is rounded by its remainder. -/
theorem nearestWhole_div {a b : ℕ} (hb : 0 < b) (htie : 2 * (a % b) ≠ b) :
    (2 * (a % b) < b ∧ nearestWhole ((a : ℝ) / b) = a / b) ∨
      (b < 2 * (a % b) ∧ nearestWhole ((a : ℝ) / b) = a / b + 1) := by
  have hpos : (0 : ℝ) < b := by exact_mod_cast hb
  have hquot := natCast_div_eq a hb
  have hlt : ((a % b : ℕ) : ℝ) < b := by exact_mod_cast Nat.mod_lt a hb
  have hnonneg : (0 : ℝ) ≤ ((a % b : ℕ) : ℝ) / b := by positivity
  rcases lt_or_gt_of_ne htie with h | h
  · have h' : (2 : ℝ) * (a % b : ℕ) < b := by exact_mod_cast h
    have hhalf : ((a % b : ℕ) : ℝ) / b < 1 / 2 := by
      rw [div_lt_iff₀ hpos]
      linarith
    exact .inl ⟨h, nearestWhole_of_lt_half (by linarith) (by linarith)⟩
  · have h' : (b : ℝ) < 2 * (a % b : ℕ) := by exact_mod_cast h
    have hhalf : 1 / 2 < ((a % b : ℕ) : ℝ) / b := by
      rw [lt_div_iff₀ hpos]
      linarith
    have hone : ((a % b : ℕ) : ℝ) / b ≤ 1 := (div_le_one hpos).mpr hlt.le
    exact .inr ⟨h, nearestWhole_of_half_lt (by linarith) (by linarith)⟩

/-- In the middle, the even one of the two quotients is taken. -/
theorem nearestWhole_div_of_tie {a b : ℕ} (hb : 0 < b) (htie : 2 * (a % b) = b) :
    nearestWhole ((a : ℝ) / b) = a / b + a / b % 2 := by
  have hpos : (b : ℝ) ≠ 0 := by exact_mod_cast hb.ne'
  have hhalf : ((a % b : ℕ) : ℝ) / b = 1 / 2 := by
    have htie' : (2 : ℝ) * (a % b : ℕ) = b := by exact_mod_cast htie
    rw [div_eq_iff hpos]
    linarith
  have hmiddle : (a : ℝ) / b = middle (a / b) := by
    rw [natCast_div_eq a hb, hhalf, middle]
  rw [hmiddle, nearestWhole_middle]

/-! ### The grid of a magnitude -/

/-- The unit of a binary place. -/
noncomputable def place (e : ℤ) : ℝ := 2 ^ e

/-- The exponent of the last of 53 places of a magnitude, but not below the last exponent of all. -/
noncomputable def lastPlace (x : ℝ) : ℤ :=
  max (Int.log 2 x - 52) (-1074)

theorem lastPlace_mono {x y : ℝ} (hx : 0 < x) (h : x ≤ y) : lastPlace x ≤ lastPlace y :=
  max_le_max_right _ (sub_le_sub_right (Int.log_mono_right hx h) 52)

/-- A magnitude has at most 53 places. -/
theorem lt_lastPlace (x : ℝ) : x < 2 ^ (53 + lastPlace x) := by
  have hlog : x < (2 : ℝ) ^ (Int.log 2 x + 1) := Int.lt_zpow_succ_log_self (by norm_num) x
  have hexp : Int.log 2 x + 1 ≤ 53 + lastPlace x := by
    have := le_max_left (Int.log 2 x - 52) (-1074)
    unfold lastPlace
    omega
  exact hlog.trans_le (zpow_le_zpow_right₀ (by norm_num) hexp)

/-- Above the last exponent of all, a magnitude has exactly 53 places. -/
theorem le_of_lt_lastPlace {x : ℝ} (hx : 0 < x) (h : -1074 < lastPlace x) :
    2 ^ (52 + lastPlace x) ≤ x := by
  have hexp : 52 + lastPlace x = Int.log 2 x := by
    unfold lastPlace at h ⊢
    omega
  rw [hexp]
  exact_mod_cast Int.zpow_log_le_self (by norm_num) hx

/-- A magnitude of exactly 53 places of an exponent has this one as its last. -/
theorem lastPlace_eq {x : ℝ} {e : ℤ} (he : -1074 ≤ e) (hlow : 2 ^ (52 + e) ≤ x)
    (hhigh : x < 2 ^ (53 + e)) : lastPlace x = e := by
  have hx : 0 < x := (by positivity : (0 : ℝ) < 2 ^ (52 + e)).trans_le hlow
  have hlog : Int.log 2 x = 52 + e := by
    refine le_antisymm ?_ ?_
    · have := (Int.lt_zpow_iff_log_lt (b := 2) (by norm_num) hx).mp (by exact_mod_cast hhigh)
      omega
    · exact (Int.zpow_le_iff_le_log (b := 2) (by norm_num) hx).mp (by exact_mod_cast hlow)
  unfold lastPlace
  omega

/-- The place on the grid nearest to a magnitude. -/
noncomputable def nearestMagnitude (x : ℝ) : ℝ :=
  nearestWhole (x / 2 ^ lastPlace x) * 2 ^ lastPlace x

theorem nearestMagnitude_nonneg (x : ℝ) : 0 ≤ nearestMagnitude x := by
  unfold nearestMagnitude
  positivity

@[simp] theorem nearestMagnitude_zero : nearestMagnitude 0 = 0 := by
  have h : nearestWhole 0 = 0 := by exact_mod_cast nearestWhole_natCast 0
  simp [nearestMagnitude, h]

/-- A magnitude has at most 53 places after rounding, too. -/
theorem nearestWhole_places_le (x : ℝ) : nearestWhole (x / 2 ^ lastPlace x) ≤ 2 ^ 53 := by
  refine nearestWhole_le ?_
  rw [div_le_iff₀ (by positivity)]
  calc x ≤ 2 ^ (53 + lastPlace x) := (lt_lastPlace x).le
    _ = (2 ^ 53 : ℕ) * 2 ^ lastPlace x := by
      rw [zpow_add₀ (by norm_num)]
      norm_num

theorem nearestMagnitude_le (x : ℝ) : nearestMagnitude x ≤ 2 ^ (53 + lastPlace x) := by
  have hpos : (0 : ℝ) < 2 ^ lastPlace x := by positivity
  calc nearestMagnitude x ≤ (2 ^ 53 : ℕ) * 2 ^ lastPlace x :=
        mul_le_mul_of_nonneg_right (by exact_mod_cast nearestWhole_places_le x) hpos.le
    _ = 2 ^ (53 + lastPlace x) := by
        rw [zpow_add₀ (by norm_num)]
        norm_num

theorem le_nearestMagnitude {x : ℝ} (hx : 0 < x) (h : -1074 < lastPlace x) :
    2 ^ (52 + lastPlace x) ≤ nearestMagnitude x := by
  have hpos : (0 : ℝ) < 2 ^ lastPlace x := by positivity
  have hplaces : (2 ^ 52 : ℕ) ≤ x / 2 ^ lastPlace x := by
    rw [le_div_iff₀ hpos]
    calc ((2 ^ 52 : ℕ) : ℝ) * 2 ^ lastPlace x = 2 ^ (52 + lastPlace x) := by
          rw [zpow_add₀ (by norm_num)]
          norm_num
      _ ≤ x := le_of_lt_lastPlace hx h
  calc (2 : ℝ) ^ (52 + lastPlace x) = (2 ^ 52 : ℕ) * 2 ^ lastPlace x := by
        rw [zpow_add₀ (by norm_num)]
        norm_num
    _ ≤ nearestMagnitude x :=
        mul_le_mul_of_nonneg_right (by exact_mod_cast le_nearestWhole hplaces) hpos.le

theorem nearestMagnitude_mono {x y : ℝ} (hx : 0 ≤ x) (h : x ≤ y) :
    nearestMagnitude x ≤ nearestMagnitude y := by
  rcases hx.eq_or_lt with rfl | hx
  · rw [nearestMagnitude_zero]
    exact nearestMagnitude_nonneg y
  rcases (lastPlace_mono hx h).lt_or_eq with hlt | heq
  · -- The grids differ: the power of two where the finer one ends lies between the two results.
    have hy : -1074 < lastPlace y := (le_max_right _ _).trans_lt hlt
    calc nearestMagnitude x ≤ 2 ^ (53 + lastPlace x) := nearestMagnitude_le x
      _ ≤ 2 ^ (52 + lastPlace y) := zpow_le_zpow_right₀ (by norm_num) (by omega)
      _ ≤ nearestMagnitude y := le_nearestMagnitude (hx.trans_le h) hy
  · unfold nearestMagnitude
    rw [heq]
    have hpos : (0 : ℝ) < 2 ^ lastPlace y := by positivity
    have hwhole := nearestWhole_mono ((div_le_div_iff_of_pos_right hpos).mpr h)
    exact mul_le_mul_of_nonneg_right (by exact_mod_cast hwhole) hpos.le

/-- A whole number of at most 53 places on any grid is on its own grid. -/
theorem nearestMagnitude_of_places {m : ℕ} {e : ℤ} (hm : m ≤ 2 ^ 53) (he : -1074 ≤ e) :
    nearestMagnitude (m * 2 ^ e) = m * 2 ^ e := by
  rcases Nat.eq_zero_or_pos m with rfl | hpos
  · simp
  have hmag : (0 : ℝ) < m * 2 ^ e := by positivity
  set t := lastPlace (m * 2 ^ e) with ht
  -- Either the grid is no coarser than `e`, or `m` is the power of two that ends the grid before.
  obtain ⟨n, hn⟩ : ∃ n : ℕ, (m : ℝ) * 2 ^ e / 2 ^ t = n := by
    rcases le_or_gt t e with hte | hte
    · refine ⟨m * 2 ^ (e - t).toNat, ?_⟩
      rw [mul_div_assoc, ← zpow_sub₀ (by norm_num)]
      push_cast
      rw [← zpow_natCast, Int.toNat_of_nonneg (by omega)]
    · have hlow := le_of_lt_lastPlace hmag (ht ▸ he.trans_lt hte)
      rw [← ht, show (52 : ℤ) + t = (52 + (t - e)) + e by ring, zpow_add₀ (by norm_num)] at hlow
      have hlow' : (2 : ℝ) ^ (52 + (t - e)) ≤ m := le_of_mul_le_mul_right hlow (by positivity)
      have hexp : (2 : ℝ) ^ (53 : ℤ) ≤ 2 ^ (52 + (t - e)) :=
        zpow_le_zpow_right₀ (by norm_num) (by omega)
      have hm53 : (m : ℝ) = 2 ^ (53 : ℤ) := by
        refine le_antisymm ?_ (hexp.trans hlow')
        exact_mod_cast hm
      have hte1 : t = e + 1 := by
        have hle : (2 : ℝ) ^ (52 + (t - e)) ≤ 2 ^ (53 : ℤ) := hm53 ▸ hlow'
        have := (zpow_le_zpow_iff_right₀ (by norm_num : (1 : ℝ) < 2)).mp hle
        omega
      refine ⟨2 ^ 52, ?_⟩
      rw [hm53, hte1, zpow_add₀ (by norm_num : (2 : ℝ) ≠ 0)]
      field_simp
      norm_num
  unfold nearestMagnitude
  rw [← ht, hn, nearestWhole_natCast, ← hn]
  field_simp

/-- A magnitude below a power of two has its places at 53 places below this power or behind. -/
theorem lastPlace_le {x : ℝ} {k : ℤ} (hk : -1021 ≤ k) (hx : 0 < x) (h : x < 2 ^ k) :
    lastPlace x ≤ k - 53 := by
  have hlog := (Int.lt_zpow_iff_log_lt (b := 2) (by norm_num) hx).mp (by exact_mod_cast h)
  unfold lastPlace
  omega

/-- Rounding moves a magnitude by half a place at most. -/
theorem abs_nearestMagnitude_sub_le {x : ℝ} {k : ℤ} (hk : -1021 ≤ k) (hx : 0 ≤ x) (h : x < 2 ^ k) :
    |nearestMagnitude x - x| ≤ 2 ^ (k - 54) := by
  rcases hx.eq_or_lt with rfl | hx
  · rw [nearestMagnitude_zero, sub_zero, abs_zero]
    positivity
  have hpos : (0 : ℝ) < 2 ^ lastPlace x := by positivity
  have hwhole := abs_nearestWhole_sub_le (div_nonneg hx.le hpos.le)
  have hsplit : nearestMagnitude x - x =
      (nearestWhole (x / 2 ^ lastPlace x) - x / 2 ^ lastPlace x) * 2 ^ lastPlace x := by
    rw [nearestMagnitude, sub_mul, div_mul_cancel₀ _ hpos.ne']
  have hhalf : (2 : ℝ) ^ (k - 54) = 1 / 2 * 2 ^ (k - 53) := by
    rw [show k - 54 = -1 + (k - 53) by ring, zpow_add₀ (by norm_num)]
    norm_num
  rw [hsplit, abs_mul, abs_of_pos hpos, hhalf]
  exact mul_le_mul hwhole (zpow_le_zpow_right₀ (by norm_num) (lastPlace_le hk hx h)) hpos.le
    (by norm_num)

/-! ### Numbers of either sign -/

/-- The place nearest to a number: its sign has no part in it. -/
noncomputable def nearest (x : ℝ) : ℝ :=
  if x < 0 then -nearestMagnitude (-x) else nearestMagnitude x

theorem nearest_of_nonneg {x : ℝ} (h : 0 ≤ x) : nearest x = nearestMagnitude x :=
  if_neg h.not_gt

@[simp] theorem nearest_zero : nearest 0 = 0 := by
  rw [nearest_of_nonneg le_rfl, nearestMagnitude_zero]

@[simp] theorem nearest_neg (x : ℝ) : nearest (-x) = -nearest x := by
  unfold nearest
  rcases lt_trichotomy x 0 with hx | rfl | hx
  · rw [if_neg (by linarith), if_pos hx, neg_neg]
  · simp
  · rw [if_pos (by linarith), if_neg (by linarith), neg_neg]

theorem nearest_mono : Monotone nearest := by
  intro x y h
  unfold nearest
  split_ifs with hx hy hy
  · exact neg_le_neg (nearestMagnitude_mono (by linarith) (by linarith))
  · have := nearestMagnitude_nonneg (-x)
    have := nearestMagnitude_nonneg y
    linarith
  · exact absurd (h.trans_lt hy) hx
  · exact nearestMagnitude_mono (not_lt.mp hx) h

theorem nearest_of_places {m : ℕ} {e : ℤ} (hm : m ≤ 2 ^ 53) (he : -1074 ≤ e) :
    nearest (m * 2 ^ e) = m * 2 ^ e := by
  rw [nearest_of_nonneg (by positivity), nearestMagnitude_of_places hm he]

theorem abs_nearest_sub_le {x : ℝ} {k : ℤ} (hk : -1021 ≤ k) (h : |x| < 2 ^ k) :
    |nearest x - x| ≤ 2 ^ (k - 54) := by
  unfold nearest
  split_ifs with hx
  · rw [abs_of_neg hx] at h
    have hmag := abs_nearestMagnitude_sub_le hk (by linarith) h
    rwa [show -nearestMagnitude (-x) - x = -(nearestMagnitude (-x) - -x) by ring, abs_neg]
  · rw [abs_of_nonneg (not_lt.mp hx)] at h
    exact abs_nearestMagnitude_sub_le hk (not_lt.mp hx) h

theorem nearest_of_int_places {z : ℤ} {e : ℤ} (hz : z.natAbs ≤ 2 ^ 53) (he : -1074 ≤ e) :
    nearest (z * 2 ^ e) = z * 2 ^ e := by
  rcases Int.natAbs_eq z with h | h
  · rw [h, Int.cast_natCast]
    exact nearest_of_places hz he
  · rw [h, Int.cast_neg, Int.cast_natCast, neg_mul, nearest_neg, nearest_of_places hz he]

/-- A rounded number has at most 53 places. -/
theorem exists_nearest_eq (x : ℝ) :
    ∃ z e : ℤ, z.natAbs ≤ 2 ^ 53 ∧ -1074 ≤ e ∧ nearest x = z * 2 ^ e := by
  unfold nearest
  split_ifs with hx
  · refine ⟨-(nearestWhole (-x / 2 ^ lastPlace (-x)) : ℕ), lastPlace (-x), ?_, le_max_right _ _, ?_⟩
    · rw [Int.natAbs_neg, Int.natAbs_natCast]
      exact nearestWhole_places_le (-x)
    · rw [nearestMagnitude, Int.cast_neg, Int.cast_natCast, neg_mul]
  · exact ⟨(nearestWhole (x / 2 ^ lastPlace x) : ℕ), lastPlace x, nearestWhole_places_le x,
      le_max_right _ _, rfl⟩

theorem nearest_natCast {n : ℕ} (h : n ≤ 2 ^ 53) : nearest n = n := by
  simpa using nearest_of_places (e := 0) h (by norm_num)

/-! ### Overflow -/

/-- The least magnitude that the format does not hold. -/
noncomputable def limit : ℝ := 2 ^ (1024 : ℤ)

theorem limit_pos : 0 < limit := by
  unfold limit
  positivity

theorem natCast_lt_limit {n : ℕ} (h : n ≤ 2 ^ 53) : (n : ℝ) < limit := by
  calc (n : ℝ) ≤ (2 ^ 53 : ℕ) := by exact_mod_cast h
    _ = 2 ^ (53 : ℤ) := by norm_num
    _ < limit := zpow_lt_zpow_right₀ (by norm_num) (by norm_num)

/-- What is too large for the format is infinite. -/
noncomputable def bounded (x : ℝ) : EReal :=
  if limit ≤ x then ⊤ else if x ≤ -limit then ⊥ else x

theorem bounded_of_abs_lt {x : ℝ} (h : |x| < limit) : bounded x = x := by
  rw [abs_lt] at h
  rw [bounded, if_neg (by linarith), if_neg (by linarith)]

theorem bounded_mono : Monotone bounded := by
  intro x y h
  have hpos := limit_pos
  unfold bounded
  by_cases hy : limit ≤ y
  · rw [if_pos hy]
    exact le_top
  by_cases hx : x ≤ -limit
  · rw [if_neg (show ¬limit ≤ x by linarith), if_pos hx]
    exact bot_le
  · rw [if_neg fun hx' => hy (hx'.trans h), if_neg hx, if_neg hy, if_neg fun hy' => hx (h.trans hy')]
    exact EReal.coe_le_coe_iff.mpr h

/-- The result of a floating operation, given its exact result. -/
noncomputable def rounded (v : EReal) : EReal :=
  if v = ⊤ then ⊤ else if v = ⊥ then ⊥ else bounded (nearest v.toReal)

@[simp] theorem rounded_top : rounded ⊤ = ⊤ := if_pos rfl

@[simp] theorem rounded_bot : rounded ⊥ = ⊥ := by
  rw [rounded, if_neg (by simp), if_pos rfl]

@[simp] theorem rounded_coe (x : ℝ) : rounded x = bounded (nearest x) := by
  rw [rounded, if_neg (EReal.coe_ne_top x), if_neg (EReal.coe_ne_bot x), EReal.toReal_coe]

/-- A number that is at most as large as a number on the grid is so after rounding. -/
theorem abs_nearest_le {x y : ℝ} (hy : nearest y = y) (h : |x| ≤ y) : |nearest x| ≤ y := by
  rw [abs_le] at h ⊢
  constructor
  · calc -y = nearest (-y) := by rw [nearest_neg, hy]
      _ ≤ nearest x := nearest_mono h.1
  · exact (nearest_mono h.2).trans_eq hy

/-- A number that is not larger than the mantissas is rounded to a number. -/
theorem rounded_of_abs_le {x : ℝ} {n : ℕ} (hn : n ≤ 2 ^ 53) (h : |x| ≤ n) :
    rounded x = (nearest x : ℝ) := by
  have hnearest := (abs_nearest_le (nearest_natCast hn) h).trans_lt (natCast_lt_limit hn)
  rw [rounded_coe, bounded_of_abs_lt hnearest]

/-- A magnitude below a power of two is rounded to a number, and by half a place of this power at
most. -/
theorem exists_rounded_eq {x : ℝ} {k : ℤ} (hlow : -1021 ≤ k) (hhigh : k ≤ 1023) (h : |x| < 2 ^ k) :
    ∃ q : ℝ, rounded x = q ∧ |q - x| ≤ 2 ^ (k - 54) := by
  have hpower : nearest (2 ^ k) = 2 ^ k := by
    simpa using nearest_of_places (m := 1) (e := k) (by norm_num) (by omega)
  have hlimit : |nearest x| < limit :=
    (abs_nearest_le hpower h.le).trans_lt (zpow_lt_zpow_right₀ (by norm_num) (by omega))
  refine ⟨nearest x, ?_, abs_nearest_sub_le hlow h⟩
  rw [rounded_coe, bounded_of_abs_lt hlimit]

/-- **Rounding keeps the order.** -/
theorem rounded_mono : Monotone rounded := by
  intro v w h
  induction w with
  | top => exact le_top.trans_eq rounded_top.symm
  | bot => rw [le_bot_iff.mp h]
  | coe y =>
      induction v with
      | top => exact absurd h (by simp)
      | bot => exact rounded_bot.trans_le bot_le
      | coe x =>
          rw [rounded_coe, rounded_coe]
          exact bounded_mono (nearest_mono (EReal.coe_le_coe_iff.mp h))

end StreetLinkage.Binary64
