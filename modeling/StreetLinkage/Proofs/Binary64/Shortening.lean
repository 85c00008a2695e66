import StreetLinkage.Proofs.Binary64.Value

/-!
# Shortening a mantissa is rounding

An operation computes a whole mantissa that is long enough, together with a note on what it cut off,
and shortens it to the places of the format. The note is two extra bits, and `Locates` is what a
mantissa with these bits says of the exact result. One shift keeps it true
(`Locates.shiftRightOne`), and from it the shortened mantissa is the rounded one
(`roundWithAccuracy_spec`).
-/

namespace StreetLinkage.Binary64

open Float.Model (Format totalExponent)
open Float.Model.UnpackedFloat

/-! ### Mantissas with two extra bits -/

/-- The two bits say where a number lies: on the mantissa, in the half above it, in the middle, or
in the half before the next. -/
def Locates : ExtendedMantissa → ℝ → Prop
  | ⟨m, false, false⟩, y => y = m
  | ⟨m, false, true⟩, y => m < y ∧ y < middle m
  | ⟨m, true, false⟩, y => y = middle m
  | ⟨m, true, true⟩, y => middle m < y ∧ y < m + 1

namespace Locates

variable {em : ExtendedMantissa} {y : ℝ}

theorem le (h : Locates em y) : em.mantissa ≤ y := by
  rcases em with ⟨m, _ | _, _ | _⟩ <;> simp only [Locates, middle] at h <;> dsimp only <;> linarith

theorem lt (h : Locates em y) : y < em.mantissa + 1 := by
  rcases em with ⟨m, _ | _, _ | _⟩ <;> simp only [Locates, middle] at h <;> dsimp only <;> linarith

theorem floor_eq (h : Locates em y) : ⌊y⌋₊ = em.mantissa :=
  (Nat.floor_eq_iff (em.mantissa.cast_nonneg.trans h.le)).mpr ⟨h.le, h.lt⟩

/-- Rounding the mantissa is rounding the number. -/
theorem roundedMantissa_eq (h : Locates em y) : em.roundedMantissa = nearestWhole y := by
  unfold nearestWhole
  rw [h.floor_eq]
  rcases em with ⟨m, _ | _, _ | _⟩ <;> simp only [Locates, middle] at h
  · subst h
    simp [ExtendedMantissa.roundedMantissa, ExtendedMantissa.accuracy, Accuracy.roundToNearestEven]
  · rw [if_pos (by linarith)]
    rfl
  · rw [if_neg (by linarith), if_neg (by linarith)]
    rfl
  · rw [if_neg (by linarith), if_pos (by linarith)]
    rfl

theorem shiftRightOne (h : Locates em y) : Locates em.shiftRightOne (y / 2) := by
  rcases em with ⟨m, r, t⟩
  have hdiv : ((m % 2 : ℕ) : ℝ) + 2 * ((m / 2 : ℕ) : ℝ) = m := by
    exact_mod_cast Nat.mod_add_div m 2
  have hone : ((1 : ℕ) != 0) = true := rfl
  -- The last bit of the mantissa becomes the round bit, and the two bits after it become one.
  rcases Nat.mod_two_eq_zero_or_one m with hm | hm <;> rw [hm] at hdiv <;>
    cases r <;> cases t <;> simp only [Locates, middle] at h <;>
    simp only [ExtendedMantissa.shiftRightOne, hm, hone, Bool.or_false, Bool.or_true,
      bne_self_eq_false, Nat.cast_zero, Nat.cast_one, Locates, middle] at hdiv ⊢ <;>
    and_intros <;> linarith

theorem shiftRight (h : Locates em y) (k : ℕ) : Locates (em >>> k) (y / 2 ^ k) := by
  induction k with
  | zero =>
      rw [pow_zero, div_one]
      exact h
  | succ k ih =>
      rw [pow_succ, ← div_div]
      exact ih.shiftRightOne

end Locates

theorem locates_exact (m : ℕ) : Locates (.ofMantissaAndAccuracy m .exact) m := rfl

/-! ### Shortening a mantissa -/

/-- The exponent of the last place that a mantissa keeps. -/
theorem targetExponent_eq (m : ℕ) (e : ℤ) :
    Format.binary64.targetExponent (totalExponent m e) = max (m.log2 + e - 52) (-1074) := by
  show max ((m.log2 : ℤ) + 1 + e - 53) (-1074) = _
  congr 1
  ring

theorem shiftToTargetExponent_eq (m : ℕ) (e : ℤ) (acc : Accuracy) :
    shiftToTargetExponent .binary64 m e acc =
      (ExtendedMantissa.ofMantissaAndAccuracy m acc >>>
          (Format.binary64.targetExponent (totalExponent m e) - e).toNat,
        e + (Format.binary64.targetExponent (totalExponent m e) - e).toNat) :=
  rfl

theorem log_eq_log2_add {m : ℕ} {y : ℝ} (e : ℤ) (hm : 0 < m) (hle : m ≤ y) (hlt : y < m + 1) :
    Int.log 2 (y * 2 ^ e) = m.log2 + e := by
  have hpos : (0 : ℝ) < y * 2 ^ e := by
    have : (0 : ℝ) < m := by exact_mod_cast hm
    have : 0 < y := this.trans_le hle
    positivity
  refine le_antisymm ?_ ?_
  · have hhigh : y * 2 ^ e < (2 : ℕ) ^ ((m.log2 : ℤ) + e + 1) := by
      have hbound : (m : ℝ) + 1 ≤ 2 ^ (m.log2 + 1) := by
        exact_mod_cast Nat.lt_log2_self (n := m)
      rw [show (m.log2 : ℤ) + e + 1 = ((m.log2 + 1 : ℕ) : ℤ) + e by push_cast; ring]
      rw [Nat.cast_ofNat, zpow_add₀ (by norm_num), zpow_natCast]
      exact mul_lt_mul_of_pos_right (hlt.trans_le hbound) (by positivity)
    have := (Int.lt_zpow_iff_log_lt (by norm_num) hpos).mp hhigh
    omega
  · refine (Int.zpow_le_iff_le_log (by norm_num) hpos).mp ?_
    have hbound : (2 : ℝ) ^ m.log2 ≤ m := by
      exact_mod_cast Nat.log2_self_le hm.ne'
    rw [Nat.cast_ofNat, zpow_add₀ (by norm_num), zpow_natCast]
    exact mul_le_mul_of_nonneg_right (hbound.trans hle) (by positivity)

/-- If the mantissa is long enough, it is shortened to the grid of the number. -/
theorem targetExponent_eq_lastPlace {m : ℕ} {e : ℤ} {y : ℝ} (hy : 0 < y) (hle : m ≤ y)
    (hlt : y < m + 1) (he : e ≤ Format.binary64.targetExponent (totalExponent m e)) :
    Format.binary64.targetExponent (totalExponent m e) = lastPlace (y * 2 ^ e) := by
  rw [targetExponent_eq] at he ⊢
  rcases Nat.eq_zero_or_pos m with rfl | hm
  · -- Less than one unit of `e`, and `e` is not above the least exponent: both are that one.
    have hlog : Int.log 2 (y * 2 ^ e) < e := by
      refine (Int.lt_zpow_iff_log_lt (by norm_num) (by positivity)).mp ?_
      have hone : y < 1 := by simpa using hlt
      rw [Nat.cast_ofNat]
      exact mul_lt_of_lt_one_left (by positivity) hone
    simp only [Nat.log2_zero, Nat.cast_zero] at he ⊢
    unfold lastPlace
    omega
  · unfold lastPlace
    rw [log_eq_log2_add e hm hle hlt]

/-- The number that is left when a mantissa has been shortened. -/
def shortened (s : Sign) (em : ExtendedMantissa × ℤ) : Float.Model.UnpackedFloat :=
  if h : em.1.mantissa = 0 then .zero s else .finite s em.1.mantissa em.2 (Nat.pos_of_ne_zero h)

theorem unpackedValue?_shortened (s : Sign) (em : ExtendedMantissa × ℤ) :
    unpackedValue? (shortened s em) = some ((signed s (em.1.mantissa * 2 ^ em.2) : ℝ) : EReal) := by
  unfold shortened
  split
  · rename_i hzero
    simp [hzero, unpackedValue?]
  · rfl

theorem isCanonical_shortened {s : Sign} {em : ExtendedMantissa × ℤ}
    (h : em.1.mantissa ≠ 0 → Canonical em.1.mantissa em.2) : IsCanonical (shortened s em) := by
  unfold shortened
  split
  · trivial
  · exact h ‹_›

theorem roundWithAccuracy_eq (s : Sign) (m : ℕ) (e : ℤ) (acc : Accuracy) :
    roundWithAccuracy .binary64 s m e acc =
      let first := shiftToTargetExponent .binary64 m e acc
      shortened s (shiftToTargetExponent .binary64 first.1.roundedMantissa first.2 .exact) :=
  rfl

/-- A rounded mantissa may have become one place too long, in which case its last place is a zero.
-/
theorem shift_rounded {r : ℕ} {t : ℤ} (hr : r ≤ 2 ^ 53) (ht : -1074 ≤ t)
    (hfull : 2 ^ 52 ≤ r ∨ t = -1074) :
    let em := shiftToTargetExponent .binary64 r t .exact
    Canonical em.1.mantissa em.2 ∧ (em.1.mantissa : ℝ) * 2 ^ em.2 = r * 2 ^ t := by
  dsimp only
  rcases hr.lt_or_eq with hlt | rfl
  · have hlog : r.log2 ≤ 52 := by
      rcases Nat.eq_zero_or_pos r with rfl | hpos
      · decide
      · have := (Nat.log2_lt hpos.ne').mpr hlt
        omega
    have hshift : shiftToTargetExponent .binary64 r t .exact = (⟨r, false, false⟩, t) := by
      have hle : Format.binary64.targetExponent (totalExponent r t) ≤ t := by
        rw [targetExponent_eq]
        omega
      rw [shiftToTargetExponent_eq, Int.toNat_of_nonpos (by omega), Nat.cast_zero, add_zero]
      rfl
    rw [hshift]
    exact ⟨⟨hlt, ht, hfull⟩, rfl⟩
  · have hshift : shiftToTargetExponent .binary64 (2 ^ 53) t .exact =
        (⟨2 ^ 52, false, false⟩, t + 1) := by
      have hexp : Format.binary64.targetExponent (totalExponent (2 ^ 53) t) = t + 1 := by
        rw [targetExponent_eq, Nat.log2_two_pow]
        omega
      rw [shiftToTargetExponent_eq, hexp, show (t + 1 - t).toNat = 1 by omega]
      rfl
    rw [hshift]
    refine ⟨⟨by norm_num, by omega, Or.inl le_rfl⟩, ?_⟩
    rw [zpow_add₀ (by norm_num)]
    norm_num
    ring

@[simp] theorem mantissa_ofMantissaAndAccuracy (m : ℕ) (acc : Accuracy) :
    (ExtendedMantissa.ofMantissaAndAccuracy m acc).mantissa = m := by
  rcases acc with _ | (_ | _ | _) <;> rfl

theorem nearestWhole_zero : nearestWhole 0 = 0 := by
  exact_mod_cast nearestWhole_natCast 0

/-- The mantissa that is left, rounded, is the place on the grid. It may be one place too long. -/
theorem roundedMantissa_spec {m : ℕ} {e t : ℤ} {acc : Accuracy} {y : ℝ}
    (h : Locates (.ofMantissaAndAccuracy m acc) y)
    (ht : Format.binary64.targetExponent (totalExponent m e) = t) (he : e ≤ t) :
    let r := (ExtendedMantissa.ofMantissaAndAccuracy m acc >>> (t - e).toNat).roundedMantissa
    r ≤ 2 ^ 53 ∧ (2 ^ 52 ≤ r ∨ t = -1074) ∧ (r : ℝ) * 2 ^ t = nearestMagnitude (y * 2 ^ e) := by
  intro r
  have hle : (m : ℝ) ≤ y := by simpa using h.le
  have hlt : y < m + 1 := by simpa using h.lt
  have hround : r = nearestWhole (y * 2 ^ e / 2 ^ t) := by
    have hshift : (2 : ℝ) ^ t = 2 ^ e * 2 ^ (t - e).toNat := by
      rw [← zpow_natCast, ← zpow_add₀ (by norm_num), Int.toNat_of_nonneg (by omega),
        add_sub_cancel]
    refine (h.shiftRight (t - e).toNat).roundedMantissa_eq.trans ?_
    rw [hshift]
    congr 1
    field_simp
  rcases (m.cast_nonneg.trans hle).eq_or_lt with rfl | hy
  · have hm : m = 0 := by exact_mod_cast le_antisymm hle m.cast_nonneg
    rw [targetExponent_eq, hm, Nat.log2_zero] at ht
    rw [hround, zero_mul, zero_div, nearestWhole_zero, nearestMagnitude_zero]
    exact ⟨by norm_num, Or.inr (by omega), by simp⟩
  have hplace : t = lastPlace (y * 2 ^ e) := by
    rw [← ht, targetExponent_eq_lastPlace hy hle hlt (ht ▸ he)]
  have hval : (r : ℝ) * 2 ^ t = nearestMagnitude (y * 2 ^ e) := by
    rw [hround, hplace]
    rfl
  have hpos : (0 : ℝ) < 2 ^ t := by positivity
  refine ⟨?_, ?_, hval⟩
  · have hhigh := nearestMagnitude_le (y * 2 ^ e)
    rw [← hval, ← hplace, zpow_add₀ (by norm_num)] at hhigh
    exact_mod_cast le_of_mul_le_mul_right hhigh hpos
  · have hleast : -1074 ≤ t := by
      rw [hplace]
      exact le_max_right _ _
    rcases hleast.eq_or_lt with heq | hlt'
    · exact Or.inr heq.symm
    · have hlow := le_nearestMagnitude (by positivity) (hplace ▸ hlt')
      rw [← hval, ← hplace, zpow_add₀ (by norm_num)] at hlow
      exact Or.inl (by exact_mod_cast le_of_mul_le_mul_right hlow hpos)

/-- **Shortening is rounding.** If the extra bits say where `y` lies and the mantissa is long
enough, the result is canonical and its value is `y * 2 ^ e`, put on the grid. -/
theorem roundWithAccuracy_spec (s : Sign) {m : ℕ} {e : ℤ} {acc : Accuracy} {y : ℝ}
    (h : Locates (.ofMantissaAndAccuracy m acc) y)
    (he : e ≤ Format.binary64.targetExponent (totalExponent m e)) :
    IsCanonical (roundWithAccuracy .binary64 s m e acc) ∧
      unpackedValue? (roundWithAccuracy .binary64 s m e acc) =
        some ((signed s (nearestMagnitude (y * 2 ^ e)) : ℝ) : EReal) := by
  generalize ht : Format.binary64.targetExponent (totalExponent m e) = t at he
  have hleast : -1074 ≤ t := by
    rw [← ht, targetExponent_eq]
    exact le_max_right _ _
  have hexp : e + (t - e).toNat = t := by omega
  obtain ⟨hr, hfull, hval⟩ := roundedMantissa_spec h ht he
  obtain ⟨hcanonical, hkept⟩ := shift_rounded hr hleast hfull
  rw [roundWithAccuracy_eq, shiftToTargetExponent_eq m, ht]
  dsimp only
  rw [hexp, unpackedValue?_shortened, hkept, hval]
  exact ⟨isCanonical_shortened fun _ => hcanonical, rfl⟩

end StreetLinkage.Binary64
