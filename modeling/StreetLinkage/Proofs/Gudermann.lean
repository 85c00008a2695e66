import Mathlib

/-!
# The latitude of a height on the map

Over the reals, the inverse projection takes a height on the map to the angle whose tangent is the
hyperbolic sine of the height (`gudermann`). Its slope is `1 / cosh`, so that equal steps on the map
are steps in latitude that shrink towards the poles: at a height of at most `b` a step of length `d`
is at least `d / cosh b` (`le_gudermann_sub`), and at a height of at least `b` it is at most that
(`gudermann_sub_le`). The numbers at the end say what this comes to at the edge of the map, where the
height is `π`.
-/

namespace StreetLinkage.Mercator

open Real

/-- The latitude of a height on the map, in radians. -/
noncomputable def gudermann (u : ℝ) : ℝ := arctan (sinh u)

@[simp] theorem gudermann_zero : gudermann 0 = 0 := by
  simp [gudermann]

@[simp] theorem gudermann_neg (u : ℝ) : gudermann (-u) = -gudermann u := by
  simp [gudermann]

/-- A quarter of a turn is less than `1.6`. -/
theorem abs_gudermann_lt (u : ℝ) : |gudermann u| < 1.6 := by
  have hpi := pi_lt_d2
  rw [gudermann, abs_lt]
  constructor
  · linarith [neg_pi_div_two_lt_arctan (sinh u)]
  · linarith [arctan_lt_pi_div_two (sinh u)]

theorem cos_gudermann (u : ℝ) : cos (gudermann u) = (cosh u)⁻¹ := by
  have hcosh : √(1 + sinh u ^ 2) = cosh u := by
    rw [← cosh_sq', sqrt_sq (cosh_pos u).le]
  rw [gudermann, cos_arctan, hcosh, one_div]

theorem hasDerivAt_gudermann (u : ℝ) : HasDerivAt gudermann (cosh u)⁻¹ u := by
  have h := (hasDerivAt_arctan (sinh u)).comp u (hasDerivAt_sinh u)
  have hcosh : cosh u ≠ 0 := (cosh_pos u).ne'
  refine h.congr_deriv ?_
  rw [← cosh_sq']
  field_simp

theorem differentiable_gudermann : Differentiable ℝ gudermann :=
  fun u => (hasDerivAt_gudermann u).differentiableAt

theorem deriv_gudermann (u : ℝ) : deriv gudermann u = (cosh u)⁻¹ :=
  (hasDerivAt_gudermann u).deriv

theorem gudermann_mono : Monotone gudermann := by
  intro u v h
  exact arctan_mono (sinh_le_sinh.mpr h)

section Steps

variable {u v b : ℝ}

/-- Steps below a height are at least as long as those there. -/
theorem le_gudermann_sub (hu : |u| ≤ b) (hv : |v| ≤ b) (h : u ≤ v) :
    (v - u) / cosh b ≤ gudermann v - gudermann u := by
  have hslope : ∀ w ∈ interior (Set.Icc u v), (cosh b)⁻¹ ≤ deriv gudermann w := by
    intro w hw
    rw [interior_Icc] at hw
    have hb : |w| ≤ |b| :=
      (abs_le.mpr ⟨(abs_le.mp hu).1.trans hw.1.le, hw.2.le.trans (abs_le.mp hv).2⟩).trans (le_abs_self b)
    rw [deriv_gudermann]
    exact inv_anti₀ (cosh_pos w) (cosh_le_cosh.mpr hb)
  rw [div_eq_inv_mul]
  exact (convex_Icc u v).mul_sub_le_image_sub_of_le_deriv
    differentiable_gudermann.continuous.continuousOn differentiable_gudermann.differentiableOn hslope
    u (Set.left_mem_Icc.mpr h) v (Set.right_mem_Icc.mpr h) h

/-- Steps above a height are at most as long as those there. -/
theorem gudermann_sub_le (hb : 0 ≤ b) (hu : b ≤ u) (h : u ≤ v) :
    gudermann v - gudermann u ≤ (v - u) / cosh b := by
  have hslope : ∀ w ∈ interior (Set.Icc u v), deriv gudermann w ≤ (cosh b)⁻¹ := by
    intro w hw
    rw [interior_Icc] at hw
    have hw' : |b| ≤ |w| := by
      rw [abs_of_nonneg hb]
      exact (hu.trans hw.1.le).trans (le_abs_self w)
    rw [deriv_gudermann]
    exact inv_anti₀ (cosh_pos b) (cosh_le_cosh.mpr hw')
  rw [div_eq_inv_mul]
  exact (convex_Icc u v).image_sub_le_mul_sub_of_deriv_le
    differentiable_gudermann.continuous.continuousOn differentiable_gudermann.differentiableOn hslope
    u (Set.left_mem_Icc.mpr h) v (Set.right_mem_Icc.mpr h) h

/-- A function that grows, and not faster than its argument, makes no distance longer. -/
theorem abs_sub_le_of_deriv_le_one {f : ℝ → ℝ} (hf : Differentiable ℝ f) (hmono : Monotone f)
    (hslope : ∀ w, deriv f w ≤ 1) (u v : ℝ) : |f u - f v| ≤ |u - v| := by
  have hstep : ∀ {u v : ℝ}, u ≤ v → |f u - f v| ≤ |u - v| := by
    intro u v h
    have hle := image_sub_le_mul_sub_of_deriv_le hf hslope h
    rw [abs_of_nonpos (sub_nonpos.mpr (hmono h)), abs_of_nonpos (sub_nonpos.mpr h)]
    linarith
  rcases le_total u v with h | h
  · exact hstep h
  · rw [abs_sub_comm, abs_sub_comm u]
    exact hstep h

theorem abs_gudermann_sub_le (u v : ℝ) : |gudermann u - gudermann v| ≤ |u - v| := by
  refine abs_sub_le_of_deriv_le_one differentiable_gudermann gudermann_mono ?_ u v
  intro w
  rw [deriv_gudermann]
  exact inv_le_one_of_one_le₀ (one_le_cosh w)

theorem abs_arctan_sub_le (x y : ℝ) : |arctan x - arctan y| ≤ |x - y| := by
  refine abs_sub_le_of_deriv_le_one differentiable_arctan arctan_mono ?_ x y
  intro w
  rw [(hasDerivAt_arctan w).deriv, div_le_one (by positivity)]
  linarith [sq_nonneg w]

end Steps

/-! ### At the edge of the map -/

theorem exp_three_bounds : 20 < exp 3 ∧ exp 3 < 20.1 := by
  have hpow : exp 3 = exp 1 ^ 3 := by
    rw [← exp_nat_mul]
    norm_num
  have hlow : (2.7182818283 : ℝ) ^ 3 < exp 1 ^ 3 :=
    pow_lt_pow_left₀ exp_one_gt_d9 (by norm_num) (by norm_num)
  have hhigh : exp 1 ^ 3 < (2.7182818286 : ℝ) ^ 3 :=
    pow_lt_pow_left₀ exp_one_lt_d9 (exp_pos 1).le (by norm_num)
  rw [hpow]
  constructor <;> linarith

theorem cosh_pi_lt : cosh π < 11.8 := by
  have hrest : exp (π - 3) < 1.166 := by
    calc exp (π - 3) < exp 0.1416 := exp_lt_exp.mpr (by linarith [pi_lt_d4])
      _ ≤ 1 / (1 - 0.1416) := exp_bound_div_one_sub_of_interval (by norm_num) (by norm_num)
      _ < 1.166 := by norm_num
  have hsplit : exp π = exp 3 * exp (π - 3) := by
    rw [← exp_add]
    ring_nf
  have hhigh : exp π < 20.1 * 1.166 := by
    rw [hsplit]
    exact mul_lt_mul'' exp_three_bounds.2 hrest (exp_pos 3).le (exp_pos _).le
  have hlow : 20 < exp π := exp_three_bounds.1.trans (exp_lt_exp.mpr pi_gt_three)
  have hneg : exp (-π) < 1 / 20 := by
    rw [exp_neg, ← one_div]
    exact one_div_lt_one_div_of_lt (by norm_num) hlow
  rw [cosh_eq]
  linarith

theorem lt_cosh_of_le {u : ℝ} (h : 3.14 ≤ u) : 11.4 < cosh u := by
  have hsplit : exp u = exp 3 * exp (u - 3) := by
    rw [← exp_add]
    ring_nf
  have hrest : 1.14 ≤ exp (u - 3) := by
    linarith [add_one_le_exp (u - 3)]
  have hlow : 20 * 1.14 < exp u := by
    rw [hsplit]
    exact mul_lt_mul exp_three_bounds.1 hrest (by norm_num) (exp_pos 3).le
  rw [cosh_eq]
  linarith [exp_pos (-u)]

theorem cosh_one_lt : cosh 1 < 1.6 := by
  rw [cosh_eq]
  linarith [exp_one_lt_d9, exp_neg_one_lt_d9]

theorem abs_sinh_le {u : ℝ} (h : |u| ≤ 4) : |sinh u| ≤ 32 := by
  have hpow : exp 4 = exp 3 * exp 1 := by
    rw [← exp_add]
    norm_num
  have hexp : exp |u| < 20.1 * 2.72 := by
    calc exp |u| ≤ exp 4 := exp_le_exp.mpr h
      _ < 20.1 * 2.72 := by
        rw [hpow]
        exact mul_lt_mul'' exp_three_bounds.2 (exp_one_lt_d9.trans (by norm_num)) (exp_pos 3).le
          (exp_pos 1).le
  rw [abs_sinh, sinh_eq]
  linarith [exp_pos (-|u|)]

end StreetLinkage.Mercator
