import StreetLinkage.Degrees
import StreetLinkage.Proofs.Binary64.Whole

/-!
# Fixed-point degrees over the reals

Degrees are put on the grid of fixed-point degrees in two steps: they are multiplied by ten million,
which rounds, and the product is cut off toward zero and held in 32 bits. `truncatedInt` is the
second step said of a value, and `toInt_truncateToInt32` says that the step on words is this one.
Both steps keep the order, so that the conversion does (`floatingToFixed_mono`), on either side of
zero and where it stops at the ends of the range.
-/

namespace StreetLinkage

namespace Binary64

/-! ### Cutting off toward zero -/

/-- The signed 32-bit number of a value: cut off toward zero, and held within the range. -/
noncomputable def truncatedInt (v : EReal) : ℤ :=
  if v < 0 then -(min (truncated (-v)) (2 ^ 31) : ℕ) else (min (truncated v) (2 ^ 31 - 1) : ℕ)

theorem truncatedInt_of_neg {v : EReal} (h : v < 0) :
    truncatedInt v = -(min (truncated (-v)) (2 ^ 31) : ℕ) :=
  if_pos h

theorem truncatedInt_of_nonneg {v : EReal} (h : 0 ≤ v) :
    truncatedInt v = (min (truncated v) (2 ^ 31 - 1) : ℕ) :=
  if_neg h.not_gt

theorem truncatedInt_mono : Monotone truncatedInt := by
  intro v w h
  rcases lt_or_ge v 0 with hv | hv
  · rw [truncatedInt_of_neg hv]
    rcases lt_or_ge w 0 with hw | hw
    · have hmin := min_le_min_right (2 ^ 31) (truncated_mono (EReal.neg_le_neg_iff.mpr h))
      rw [truncatedInt_of_neg hw]
      omega
    · rw [truncatedInt_of_nonneg hw]
      omega
  · have hmin := min_le_min_right (2 ^ 31 - 1) (truncated_mono h)
    rw [truncatedInt_of_nonneg hv, truncatedInt_of_nonneg (hv.trans h)]
    omega

theorem truncatedInt_coe_of_nonneg {a : ℝ} (h : 0 ≤ a) :
    truncatedInt a = (min ⌊a⌋₊ (2 ^ 31 - 1) : ℕ) := by
  rw [truncatedInt_of_nonneg (EReal.coe_nonneg.mpr h), truncated_coe]
  omega

theorem truncatedInt_coe_of_nonpos {a : ℝ} (h : a ≤ 0) :
    truncatedInt a = -(min ⌊-a⌋₊ (2 ^ 31) : ℕ) := by
  rcases h.lt_or_eq with hlt | rfl
  · rw [truncatedInt_of_neg (EReal.coe_neg'.mpr hlt), ← EReal.coe_neg, truncated_coe]
    omega
  · rw [truncatedInt_coe_of_nonneg le_rfl]
    simp

/-- Within the range, a number that is not negative is rounded down. -/
theorem truncatedInt_eq_floor {a : ℝ} (hzero : 0 ≤ a) (h : a < 2 ^ 31) : truncatedInt a = ⌊a⌋ := by
  have hfloor : ⌊a⌋₊ < 2 ^ 31 := (Nat.floor_lt hzero).mpr (by exact_mod_cast h)
  rw [truncatedInt_coe_of_nonneg hzero, min_eq_left (by omega), Int.natCast_floor_eq_floor hzero]

/-- Within the range, a number that is not positive is rounded up. -/
theorem truncatedInt_eq_ceil {a : ℝ} (hzero : a ≤ 0) (h : -2 ^ 31 < a) : truncatedInt a = ⌈a⌉ := by
  have hfloor : ⌊-a⌋₊ < 2 ^ 31 := (Nat.floor_lt (by linarith)).mpr (by push_cast; linarith)
  rw [truncatedInt_coe_of_nonpos hzero, min_eq_left (by omega),
    Int.natCast_floor_eq_floor (by linarith), Int.floor_neg, neg_neg]

/-- Numbers that are one apart stay apart if they are on one side of zero. Zero itself stands for what
is less than one away from it on either side, so two numbers on different sides must not both be there. -/
theorem truncatedInt_lt {a b : ℝ} (ha : -2 ^ 31 < a) (hb : b < 2 ^ 31) (hstep : a + 1 ≤ b)
    (hside : 0 ≤ a ∨ b ≤ 0 ∨ a ≤ -1 ∧ 1 ≤ b) : truncatedInt a < truncatedInt b := by
  rcases hside with hpos | hneg | ⟨hneg, hpos⟩
  · rw [truncatedInt_eq_floor hpos (by linarith), truncatedInt_eq_floor (by linarith) hb]
    have := Int.floor_le_floor hstep
    rw [Int.floor_add_one] at this
    omega
  · rw [truncatedInt_eq_ceil (by linarith) ha, truncatedInt_eq_ceil hneg (by linarith)]
    have := Int.ceil_le_ceil hstep
    rw [Int.ceil_add_one] at this
    omega
  · rw [truncatedInt_eq_ceil (by linarith) ha, truncatedInt_eq_floor (by linarith) hb]
    have hceil : ⌈a⌉ ≤ -1 := Int.ceil_le.mpr (by exact_mod_cast hneg)
    have hfloor : 1 ≤ ⌊b⌋ := Int.le_floor.mpr (by exact_mod_cast hpos)
    omega

end Binary64

open Binary64

variable {x y : Float} {v : EReal} {a : ℝ}

theorem toInt_truncateToInt32 (h : value? x = some v) :
    (truncateToInt32 x).toInt = truncatedInt v := by
  have hsign : x < 0 ↔ v < 0 := lt_iff_of_value? h rfl
  simp only [truncateToInt32, Nat.pow_eq]
  rcases lt_or_ge v 0 with hv | hv
  · rw [if_pos (hsign.mpr hv), truncatedInt_of_neg hv, toNat_toUInt32 (value?_neg h)]
    exact Int32.toInt_ofInt_of_le (by omega) (by omega)
  · rw [if_neg (fun hx => hv.not_gt (hsign.mp hx)), truncatedInt_of_nonneg hv, toNat_toUInt32 h]
    exact Int32.toInt_ofInt_of_le (by omega) (by omega)

/-! ### Degrees -/

theorem value?_fixedFactor : value? fixedFactor = some (((10 : ℝ) ^ 7 : ℝ) : EReal) := by
  have h : value? fixedFactor =
      some ((signed .positive ((5368709120000000 : ℕ) * 2 ^ (-29 : ℤ)) : ℝ) : EReal) := rfl
  rw [h]
  norm_num [signed]

/-- Fixed-point degrees are the degrees, multiplied, rounded and cut off. -/
theorem toInt_floatingToFixed (h : value? x = some v) :
    (floatingToFixed x).toInt = truncatedInt (rounded (v * ((10 : ℝ) ^ 7 : ℝ))) :=
  toInt_truncateToInt32 (value?_mul_of_pos h value?_fixedFactor (by positivity))

/-- **The conversion to fixed-point degrees keeps the order** of all numbers, infinities included. -/
theorem floatingToFixed_mono (h : x ≤ y) :
    (floatingToFixed x).toInt ≤ (floatingToFixed y).toInt := by
  obtain ⟨v, w, hv, hw, hvw⟩ := le_iff.mp h
  rw [toInt_floatingToFixed hv, toInt_floatingToFixed hw]
  have hscaled : v * ((10 : ℝ) ^ 7 : ℝ) ≤ w * ((10 : ℝ) ^ 7 : ℝ) :=
    mul_le_mul_of_nonneg_right hvw (EReal.coe_nonneg.mpr (by positivity))
  exact truncatedInt_mono (rounded_mono hscaled)

end StreetLinkage
