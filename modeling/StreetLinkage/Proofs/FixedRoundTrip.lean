import StreetLinkage.Proofs.FixedDegrees

/-!
# Fixed-point degrees through floating degrees and back

A whole number of fixed-point units is divided by ten million, which rounds, and multiplied again,
which rounds, too; what is behind the point is cut off then. If the first rounding goes up, nothing
is lost. If it goes down, the product is a little less than the number, and the second rounding
brings it back as long as it is not more than half a place away; otherwise a whole unit is lost.

How far away it is depends on the remainder of the division alone, and the remainder is that of a
whole number (`Slips`). So the outcome is known for every magnitude (`floor_trip`), and neither rounding
looks at the sign: most numbers come back, and the others lose one unit toward zero.
-/

namespace StreetLinkage

open Binary64

/-! ### Rounding just below a whole number of places -/

namespace Binary64

variable {K : ℕ} {e : ℤ} {ρ : ℝ}

theorem nearestMagnitude_of_binade {x : ℝ} (he : -1074 ≤ e) (hlow : 2 ^ 52 * 2 ^ e ≤ x)
    (hhigh : x < 2 ^ 53 * 2 ^ e) : nearestMagnitude x = nearestWhole (x / 2 ^ e) * 2 ^ e := by
  have hplace : lastPlace x = e := by
    refine lastPlace_eq he ?_ ?_
    · rw [zpow_add₀ (by norm_num)]
      exact_mod_cast hlow
    · rw [zpow_add₀ (by norm_num)]
      exact_mod_cast hhigh
  rw [nearestMagnitude, hplace]

/-- At most half a place below an even number of places, rounding goes up to it. -/
theorem nearestMagnitude_below_even (he : -1074 ≤ e) (heven : K % 2 = 0) (hpos : 0 ≤ ρ)
    (hhalf : ρ ≤ 1 / 2) (hlow : 2 ^ 52 + ρ ≤ K) (hhigh : K ≤ 2 ^ 53) :
    nearestMagnitude ((K - ρ) * 2 ^ e) = K * 2 ^ e := by
  have hunit : (0 : ℝ) < 2 ^ e := by positivity
  rcases hpos.eq_or_lt with rfl | hpos
  · rw [sub_zero]
    exact nearestMagnitude_of_places hhigh he
  have hK : (K : ℝ) ≤ 2 ^ 53 := by exact_mod_cast hhigh
  have hone : 1 ≤ K := by
    have : (0 : ℝ) < K := by linarith
    exact_mod_cast this
  have hpred : ((K - 1 : ℕ) : ℝ) = K - 1 := Nat.cast_pred hone
  rw [nearestMagnitude_of_binade he (by nlinarith) (by nlinarith), mul_div_assoc, div_self hunit.ne',
    mul_one]
  congr 2
  rcases hhalf.lt_or_eq with hlt | rfl
  · rw [nearestWhole_of_half_lt (n := K - 1) (by linarith) (by linarith)]
    omega
  · have hmiddle : (K : ℝ) - 1 / 2 = middle (K - 1) := by
      rw [middle]
      linarith
    rw [hmiddle, nearestWhole_middle]
    omega

/-- More than half a place below a number of places, rounding goes down from it. -/
theorem nearestMagnitude_below (he : -1074 ≤ e) (hhalf : 1 / 2 < ρ) (hone : ρ ≤ 1)
    (hlow : 2 ^ 52 + ρ ≤ K) (hhigh : K ≤ 2 ^ 53) :
    nearestMagnitude ((K - ρ) * 2 ^ e) = (K - 1) * 2 ^ e := by
  have hunit : (0 : ℝ) < 2 ^ e := by positivity
  have hK : (K : ℝ) ≤ 2 ^ 53 := by exact_mod_cast hhigh
  have hK1 : 1 ≤ K := by
    have : (0 : ℝ) < K := by linarith
    exact_mod_cast this
  have hpred : ((K - 1 : ℕ) : ℝ) = K - 1 := Nat.cast_pred hK1
  rw [nearestMagnitude_of_binade he (by nlinarith) (by nlinarith), mul_div_assoc, div_self hunit.ne',
    mul_one, nearestWhole_of_lt_half (n := K - 1) (by linarith) (by linarith), hpred]

end Binary64

/-! ### The trip of a magnitude -/

/-- The magnitude loses a unit. Its binary places, cut at 2 ^ 75, leave a remainder when they are
divided by ten million; it is rounded down by this remainder, which is too much for the second
rounding. Only magnitudes whose leading places are not below those of ten million are concerned: the
quotients of the others have one more place. -/
def Slips (m : ℕ) : Prop :=
  10 ^ 7 * 2 ^ m.log2 ≤ m * 2 ^ 23 ∧
    2 ^ 22 < m * 2 ^ (75 - m.log2) % 10 ^ 7 ∧ m * 2 ^ (75 - m.log2) % 10 ^ 7 < 5 * 10 ^ 6

instance (m : ℕ) : Decidable (Slips m) :=
  inferInstanceAs (Decidable (_ ∧ _))

/-- The magnitude, divided by ten million and multiplied again, and rounded both times. -/
noncomputable def trip (m : ℕ) : ℝ :=
  nearestMagnitude (nearestMagnitude (m / 10 ^ 7) * 10 ^ 7)

section Magnitudes

variable {m r s j t : ℕ}

/-- The quotient, multiplied exactly: its remainder is missing or is made up for. -/
theorem quotient_mul_cases (ht : 7 ≤ t) (hleast : t ≤ 1074) (hlow : 2 ^ 52 * 10 ^ 7 ≤ m * 2 ^ t)
    (hhigh : m * 2 ^ t < 2 ^ 53 * 10 ^ 7) (hr : m * 2 ^ t % 10 ^ 7 = r) :
    (2 * r < 10 ^ 7 ∧ nearestMagnitude (m / 10 ^ 7) * 10 ^ 7 = m - r / 2 ^ t) ∨
      (10 ^ 7 < 2 * r ∧ r < 10 ^ 7 ∧
        nearestMagnitude (m / 10 ^ 7) * 10 ^ 7 = m + (10 ^ 7 - r) / 2 ^ t) := by
  have hunit : (0 : ℝ) < 2 ^ t := by positivity
  have hscale : (m : ℝ) / 10 ^ 7 / 2 ^ (-(t : ℤ)) = ((m * 2 ^ t : ℕ) : ℝ) / (10 ^ 7 : ℕ) := by
    rw [zpow_neg, zpow_natCast]
    push_cast
    field_simp
    norm_num
  have hlow' : (2 : ℝ) ^ 52 * 2 ^ (-(t : ℤ)) ≤ m / 10 ^ 7 := by
    rw [zpow_neg, zpow_natCast, ← div_eq_mul_inv, div_le_div_iff₀ hunit (by norm_num)]
    exact_mod_cast hlow
  have hhigh' : (m : ℝ) / 10 ^ 7 < 2 ^ 53 * 2 ^ (-(t : ℤ)) := by
    rw [zpow_neg, zpow_natCast, ← div_eq_mul_inv, div_lt_div_iff₀ (by norm_num) hunit]
    exact_mod_cast hhigh
  -- Powers of two from 128 on are even multiples of the power of two in ten million, so no tie.
  have htie : 2 * r ≠ 10 ^ 7 := by
    obtain ⟨u, rfl⟩ := Nat.exists_eq_add_of_le ht
    have hmod : r % 2 ^ 7 = 0 := by
      rw [← hr, Nat.mod_mod_of_dvd _ (by norm_num), pow_add, ← mul_assoc, mul_right_comm]
      exact Nat.mul_mod_left _ _
    omega
  have hsum : ((m * 2 ^ t / 10 ^ 7 : ℕ) : ℝ) * 10 ^ 7 = m * 2 ^ t - r := by
    have := Nat.div_add_mod' (m * 2 ^ t) (10 ^ 7)
    rw [hr] at this
    have hcast : ((m * 2 ^ t / 10 ^ 7 : ℕ) : ℝ) * 10 ^ 7 + r = m * 2 ^ t := by exact_mod_cast this
    linarith
  rw [nearestMagnitude_of_binade (by omega) hlow' hhigh', hscale, zpow_neg, zpow_natCast]
  rcases nearestWhole_div (a := m * 2 ^ t) (b := 10 ^ 7) (by norm_num) (hr ▸ htie) with
    ⟨h, hwhole⟩ | ⟨h, hwhole⟩
  · refine .inl ⟨hr ▸ h, ?_⟩
    rw [hwhole, mul_right_comm, hsum]
    field_simp
  · refine .inr ⟨hr ▸ h, hr ▸ Nat.mod_lt _ (by norm_num), ?_⟩
    rw [hwhole, mul_right_comm, Nat.cast_add_one, add_mul, hsum]
    field_simp
    ring

theorem sub_remainder_eq (m r s j : ℕ) :
    (m : ℝ) - r / 2 ^ (s + j) = (((m * 2 ^ j : ℕ) : ℝ) - r / 2 ^ s) * 2 ^ (-(j : ℤ)) := by
  rw [zpow_neg, zpow_natCast, pow_add]
  push_cast
  field_simp

/-- A remainder of at most half a place is made up for. -/
theorem nearestMagnitude_sub_small (hr : 2 * r ≤ 2 ^ s) (heven : m * 2 ^ j % 2 = 0)
    (hlow : 2 ^ 52 + 1 ≤ m * 2 ^ j) (hhigh : m * 2 ^ j ≤ 2 ^ 53) (hj : j ≤ 1074) :
    nearestMagnitude (m - r / 2 ^ (s + j)) = m := by
  have hhalf : (r : ℝ) / 2 ^ s ≤ 1 / 2 := by
    rw [div_le_div_iff₀ (by positivity) (by norm_num)]
    exact_mod_cast (by omega : r * 2 ≤ 1 * 2 ^ s)
  have hlow' : (2 : ℝ) ^ 52 + 1 ≤ (m * 2 ^ j : ℕ) := by exact_mod_cast hlow
  rw [sub_remainder_eq, nearestMagnitude_below_even (by omega) heven (by positivity) hhalf
    (by linarith) hhigh, zpow_neg, zpow_natCast]
  push_cast
  field_simp

/-- A remainder of more than half a place, and of one at most, costs a place. -/
theorem nearestMagnitude_sub_large (hr : 2 ^ s < 2 * r) (hone : r ≤ 2 ^ s)
    (hlow : 2 ^ 52 + 1 ≤ m * 2 ^ j) (hhigh : m * 2 ^ j ≤ 2 ^ 53) (hj : j ≤ 1074) :
    nearestMagnitude (m - r / 2 ^ (s + j)) = m - 1 / 2 ^ j := by
  have hhalf : 1 / 2 < (r : ℝ) / 2 ^ s := by
    rw [div_lt_div_iff₀ (by norm_num) (by positivity)]
    exact_mod_cast (by omega : 1 * 2 ^ s < r * 2)
  have hone' : (r : ℝ) / 2 ^ s ≤ 1 := by
    rw [div_le_one (by positivity)]
    exact_mod_cast hone
  have hlow' : (2 : ℝ) ^ 52 + 1 ≤ (m * 2 ^ j : ℕ) := by exact_mod_cast hlow
  rw [sub_remainder_eq, nearestMagnitude_below (by omega) hhalf hone' (by linarith) hhigh, zpow_neg,
    zpow_natCast]
  push_cast
  field_simp

/-- What the quotient gains is kept, and it is less than half a unit. -/
theorem nearestMagnitude_add_cases {δ : ℝ} (hm : m ≤ 2 ^ 31) (hpos : 0 ≤ δ) (hhalf : δ ≤ 1 / 2) :
    m ≤ nearestMagnitude (m + δ) ∧ nearestMagnitude (m + δ) ≤ m + 1 / 2 := by
  have hwhole : nearestMagnitude m = m := by
    simpa using nearestMagnitude_of_places (e := 0) (hm.trans (by norm_num)) (by norm_num)
  have hmiddle : nearestMagnitude (m + 1 / 2) = m + 1 / 2 := by
    have hplaces : ((2 * m + 1 : ℕ) : ℝ) * 2 ^ (-1 : ℤ) = m + 1 / 2 := by
      push_cast
      norm_num
      ring
    rw [← hplaces]
    exact nearestMagnitude_of_places (by omega) (by norm_num)
  constructor
  · calc (m : ℝ) = nearestMagnitude m := hwhole.symm
      _ ≤ nearestMagnitude (m + δ) := nearestMagnitude_mono m.cast_nonneg (by linarith)
  · calc nearestMagnitude (m + δ) ≤ nearestMagnitude (m + 1 / 2) :=
          nearestMagnitude_mono (by positivity) (by linarith)
      _ = m + 1 / 2 := hmiddle

/-- What the quotient has gained is lost again when the number is cut off. -/
theorem trip_of_gain (hm : m ≤ 2 ^ 31) (ht : 25 ≤ t) (hr : r ≤ 10 ^ 7)
    (hproduct : nearestMagnitude (m / 10 ^ 7) * 10 ^ 7 = m + (10 ^ 7 - r) / 2 ^ t) :
    m ≤ trip m ∧ trip m ≤ m + 1 / 2 := by
  have hr' : (r : ℝ) ≤ 10 ^ 7 := by exact_mod_cast hr
  have hpow : (2 : ℝ) ^ 25 ≤ 2 ^ t := pow_le_pow_right₀ (by norm_num) ht
  have hhalf : (10 ^ 7 - (r : ℝ)) / 2 ^ t ≤ 1 / 2 := by
    rw [div_le_div_iff₀ (by positivity) (by norm_num)]
    linarith [r.cast_nonneg (α := ℝ)]
  rw [trip, hproduct]
  exact nearestMagnitude_add_cases hm (div_nonneg (by linarith) (by positivity)) hhalf

/-- A magnitude and the number of places before and behind the point. -/
structure Places (m k j : ℕ) : Prop where
  low : 2 ^ k ≤ m
  high : m < 2 ^ (k + 1)
  bound : m ≤ 2 ^ 31
  le : k ≤ 31
  sum : k + j = 52

theorem exists_places (hpos : 0 < m) (hm : m ≤ 2 ^ 31) : ∃ j, Places m m.log2 j := by
  have hlog : m.log2 ≤ 31 := by
    have := (Nat.log2_lt hpos.ne').mpr (hm.trans_lt (by norm_num : 2 ^ 31 < 2 ^ 32))
    omega
  exact ⟨52 - m.log2, Nat.log2_self_le hpos.ne', Nat.lt_log2_self, hm, hlog, by omega⟩

section Places

variable {k : ℕ} (h : Places m k j)

include h

theorem Places.pow_mul_pow : 2 ^ k * 2 ^ j = 2 ^ 52 := by
  rw [← pow_add, h.sum]

theorem Places.le_mul (hlt : 2 ^ k < m) : 2 ^ 52 + 1 ≤ m * 2 ^ j := by
  have hone : 1 ≤ 2 ^ j := Nat.one_le_two_pow
  calc 2 ^ 52 + 1 ≤ 2 ^ k * 2 ^ j + 2 ^ j := by rw [h.pow_mul_pow]; omega
    _ = (2 ^ k + 1) * 2 ^ j := (Nat.succ_mul _ _).symm
    _ ≤ m * 2 ^ j := Nat.mul_le_mul_right _ hlt

theorem Places.mul_le : m * 2 ^ j ≤ 2 ^ 53 := by
  calc m * 2 ^ j ≤ 2 ^ (k + 1) * 2 ^ j := Nat.mul_le_mul_right _ h.high.le
    _ = 2 ^ 53 := by rw [pow_succ, mul_right_comm, h.pow_mul_pow]; norm_num

theorem Places.even : m * 2 ^ j % 2 = 0 := by
  obtain ⟨i, rfl⟩ : ∃ i, j = i + 1 := ⟨j - 1, by have := h.le; have := h.sum; omega⟩
  rw [pow_succ, ← mul_assoc]
  exact Nat.mul_mod_left _ 2

/-- Leading places that are not below those of ten million. -/
theorem Places.trip_cases_of_le (hlead : 10 ^ 7 * 2 ^ k ≤ m * 2 ^ 23) :
    let r := m * 2 ^ (23 + j) % 10 ^ 7
    (2 ^ 22 < r ∧ r < 5 * 10 ^ 6 ∧ trip m = m - 1 / 2 ^ j) ∨
      (¬(2 ^ 22 < r ∧ r < 5 * 10 ^ 6) ∧ m ≤ trip m ∧ trip m ≤ m + 1 / 2) := by
  intro r
  have hsum := h.sum
  have hle := h.le
  have hlt : 2 ^ k < m := by
    have := Nat.two_pow_pos k
    omega
  have hlow : 2 ^ 52 * 10 ^ 7 ≤ m * 2 ^ (23 + j) := by
    calc 2 ^ 52 * 10 ^ 7 = 10 ^ 7 * 2 ^ k * 2 ^ j := by rw [← h.pow_mul_pow]; ring
      _ ≤ m * 2 ^ 23 * 2 ^ j := Nat.mul_le_mul_right _ hlead
      _ = m * 2 ^ (23 + j) := by ring
  have hhigh : m * 2 ^ (23 + j) < 2 ^ 53 * 10 ^ 7 := by
    calc m * 2 ^ (23 + j) = m * 2 ^ j * 2 ^ 23 := by ring
      _ ≤ 2 ^ 53 * 2 ^ 23 := Nat.mul_le_mul_right _ h.mul_le
      _ < 2 ^ 53 * 10 ^ 7 := by norm_num
  rcases quotient_mul_cases (by omega) (by omega) hlow hhigh rfl with
    ⟨hdown, hproduct⟩ | ⟨hup, hr, hproduct⟩
  · rcases Nat.lt_or_ge (2 ^ 22) r with hlarge | hsmall
    · refine .inl ⟨hlarge, by omega, ?_⟩
      rw [trip, hproduct]
      exact nearestMagnitude_sub_large (by omega) (by omega) (h.le_mul hlt) h.mul_le (by omega)
    · have hkept : trip m = m := by
        rw [trip, hproduct]
        exact nearestMagnitude_sub_small (by omega) h.even (h.le_mul hlt) h.mul_le (by omega)
      rw [hkept]
      exact .inr ⟨by omega, le_rfl, by linarith⟩
  · exact .inr ⟨by omega, trip_of_gain h.bound (by omega) hr.le hproduct⟩

/-- Leading places below those of ten million: the quotient has one more place. -/
theorem Places.trip_of_lt (hlead : m * 2 ^ 23 < 10 ^ 7 * 2 ^ k) :
    m ≤ trip m ∧ trip m ≤ m + 1 / 2 := by
  have hsum := h.sum
  have hle := h.le
  have hlow : 2 ^ 52 * 10 ^ 7 ≤ m * 2 ^ (24 + j) := by
    calc 2 ^ 52 * 10 ^ 7 ≤ 2 ^ k * 2 ^ j * 2 ^ 24 := by rw [h.pow_mul_pow]; norm_num
      _ ≤ m * 2 ^ j * 2 ^ 24 := Nat.mul_le_mul_right _ (Nat.mul_le_mul_right _ h.low)
      _ = m * 2 ^ (24 + j) := by ring
  have hhigh : m * 2 ^ (24 + j) < 2 ^ 53 * 10 ^ 7 := by
    calc m * 2 ^ (24 + j) = m * 2 ^ 23 * 2 ^ (j + 1) := by ring
      _ < 10 ^ 7 * 2 ^ k * 2 ^ (j + 1) := Nat.mul_lt_mul_of_pos_right hlead (Nat.two_pow_pos _)
      _ = 2 ^ k * 2 ^ j * 2 * 10 ^ 7 := by ring
      _ = 2 ^ 53 * 10 ^ 7 := by rw [h.pow_mul_pow]; norm_num
  rcases quotient_mul_cases (by omega) (by omega) hlow hhigh rfl with
    ⟨hdown, hproduct⟩ | ⟨hup, hr, hproduct⟩
  · have hkept : trip m = m := by
      rw [trip, hproduct]
      rcases h.low.lt_or_eq with hlt | heq
      · exact nearestMagnitude_sub_small (by omega) h.even (h.le_mul hlt) h.mul_le (by omega)
      · -- The places below a power of two are half as wide, and the remainder is that of 2 ^ 76.
        have hpow : m * 2 ^ (j + 1) = 2 ^ 53 := by
          rw [← heq, pow_succ, ← mul_assoc, h.pow_mul_pow]
          norm_num
        have hremainder : m * 2 ^ (24 + j) % 10 ^ 7 = 3419136 := by
          have hmul : m * 2 ^ (24 + j) = m * 2 ^ (j + 1) * 2 ^ 23 := by ring
          rw [hmul, hpow]
          norm_num
        rw [hremainder, show 24 + j = 23 + (j + 1) by omega]
        exact nearestMagnitude_sub_small (by norm_num) (by rw [hpow]; norm_num)
          (by rw [hpow]; norm_num) hpow.le (by omega)
    rw [hkept]
    exact ⟨le_rfl, by linarith⟩
  · exact trip_of_gain h.bound (by omega) hr.le hproduct

end Places

/-- **The trip of a magnitude.** Either it slips and ends a place below, or it ends where it began or
less than a unit above. -/
theorem trip_cases (hpos : 0 < m) (hm : m ≤ 2 ^ 31) :
    (Slips m ∧ ∃ j : ℕ, trip m = m - 1 / 2 ^ j) ∨ (¬Slips m ∧ m ≤ trip m ∧ trip m ≤ m + 1 / 2) := by
  obtain ⟨j, h⟩ := exists_places hpos hm
  have hsum := h.sum
  have hle := h.le
  have hplaces : 75 - m.log2 = 23 + j := by omega
  unfold Slips
  rw [hplaces]
  by_cases hlead : 10 ^ 7 * 2 ^ m.log2 ≤ m * 2 ^ 23
  · rcases h.trip_cases_of_le hlead with ⟨hlarge, hdown, htrip⟩ | ⟨hslips, htrip⟩
    · exact .inl ⟨⟨hlead, hlarge, hdown⟩, j, htrip⟩
    · exact .inr ⟨fun h => hslips h.2, htrip⟩
  · exact .inr ⟨fun h => hlead h.1, h.trip_of_lt (not_le.mp hlead)⟩

theorem trip_zero : trip 0 = 0 := by
  simp [trip]

/-- What is left of a magnitude when its trip is cut off. -/
theorem floor_trip (hm : m ≤ 2 ^ 31) : ⌊trip m⌋₊ = if Slips m then m - 1 else m := by
  rcases Nat.eq_zero_or_pos m with rfl | hpos
  · simp [trip_zero]
  rcases trip_cases hpos hm with ⟨hslips, j, htrip⟩ | ⟨hslips, hlow, hhigh⟩
  · have hpred : ((m - 1 : ℕ) : ℝ) = m - 1 := Nat.cast_pred hpos
    have hplace : (1 : ℝ) / 2 ^ j ≤ 1 := by
      rw [div_le_one (by positivity)]
      exact one_le_pow₀ (by norm_num)
    have hplace' : (0 : ℝ) < 1 / 2 ^ j := by positivity
    rw [if_pos hslips, htrip, Nat.floor_eq_iff (by linarith [(m - 1).cast_nonneg (α := ℝ)])]
    constructor <;> linarith
  · rw [if_neg hslips, Nat.floor_eq_iff (m.cast_nonneg.trans hlow)]
    exact ⟨hlow, by linarith⟩

end Magnitudes

/-! ### The trip of a fixed-point number -/

theorem natAbs_toInt_le (n : Int32) : n.toInt.natAbs ≤ 2 ^ 31 := by
  have hlow := n.le_toInt
  have hhigh := n.toInt_lt
  omega

/-- A whole number is its magnitude with a sign. -/
theorem cast_toInt_cases (n : Int32) :
    (n < 0 ∧ (n.toInt : ℝ) = -(n.toInt.natAbs : ℝ)) ∨ (¬n < 0 ∧ (n.toInt : ℝ) = n.toInt.natAbs) := by
  have hsign : n < 0 ↔ n.toInt < 0 := Int32.lt_iff_toInt_lt
  rcases lt_or_ge n.toInt 0 with hneg | hnonneg
  · have habs : (n.toInt.natAbs : ℤ) = -n.toInt := by omega
    refine .inl ⟨hsign.mpr hneg, ?_⟩
    rw [← Int.cast_natCast n.toInt.natAbs, habs, Int.cast_neg, neg_neg]
  · have habs : (n.toInt.natAbs : ℤ) = n.toInt := by omega
    refine .inr ⟨fun h => hnonneg.not_gt (hsign.mp h), ?_⟩
    rw [← Int.cast_natCast n.toInt.natAbs, habs]

theorem value?_wholeFloat (n : Int32) : value? (wholeFloat n) = some ((n.toInt : ℝ) : EReal) := by
  have hword : (UInt32.ofNat n.toInt.natAbs).toNat = n.toInt.natAbs :=
    UInt32.toNat_ofNat_of_lt' ((natAbs_toInt_le n).trans_lt (by norm_num))
  have hmag := value?_toFloat (UInt32.ofNat n.toInt.natAbs)
  rw [hword] at hmag
  simp only [wholeFloat]
  rcases cast_toInt_cases n with ⟨hneg, hcast⟩ | ⟨hneg, hcast⟩
  · rw [if_pos hneg, value?_neg hmag, hcast, EReal.coe_neg]
  · rw [if_neg hneg, hmag, hcast]

theorem abs_cast_toInt_le (n : Int32) : |(n.toInt : ℝ)| ≤ 2 ^ 31 := by
  have habs : |(n.toInt : ℝ)| = n.toInt.natAbs := by
    rcases cast_toInt_cases n with ⟨-, h⟩ | ⟨-, h⟩ <;> rw [h]
    · rw [abs_neg, abs_of_nonneg (by positivity)]
    · rw [abs_of_nonneg (by positivity)]
  rw [habs]
  exact_mod_cast natAbs_toInt_le n

/-- A quotient by ten million is at most 215, before rounding and after it. -/
theorem abs_quotient_le (n : Int32) :
    |(n.toInt : ℝ) / 10 ^ 7| ≤ ((215 : ℕ) : ℝ) ∧
      |nearest (n.toInt / 10 ^ 7)| ≤ ((215 : ℕ) : ℝ) := by
  have hquotient : |(n.toInt : ℝ) / 10 ^ 7| ≤ ((215 : ℕ) : ℝ) := by
    rw [abs_div, abs_of_pos (by positivity : (0 : ℝ) < 10 ^ 7), div_le_iff₀ (by positivity)]
    exact (abs_cast_toInt_le n).trans (by norm_num)
  exact ⟨hquotient, abs_nearest_le (nearest_natCast (by norm_num)) hquotient⟩

/-- The degrees of a fixed-point number are the quotient, rounded. -/
theorem value?_fixedToFloating (n : Int32) :
    value? (fixedToFloating n) = some ((nearest (n.toInt / 10 ^ 7) : ℝ) : EReal) := by
  have h := value?_div (value?_wholeFloat n) value?_fixedFactor (by norm_num)
  rwa [rounded_of_abs_le (by norm_num) (abs_quotient_le n).1] at h

theorem toInt_round_trip (n : Int32) :
    (floatingToFixed (fixedToFloating n)).toInt =
      truncatedInt (nearest (nearest (n.toInt / 10 ^ 7) * 10 ^ 7) : ℝ) := by
  have hproduct : |nearest (n.toInt / 10 ^ 7) * 10 ^ 7| ≤ ((215 * 10 ^ 7 : ℕ) : ℝ) := by
    rw [abs_mul, abs_of_pos (by positivity : (0 : ℝ) < 10 ^ 7), Nat.cast_mul]
    have h := (abs_quotient_le n).2
    push_cast at h ⊢
    linarith
  rw [toInt_floatingToFixed (value?_fixedToFloating n), ← EReal.coe_mul,
    rounded_of_abs_le (by norm_num) hproduct]

/-- The two roundings do not depend on the sign. -/
theorem nearest_nearest_neg (x : ℝ) :
    nearest (nearest (-x / 10 ^ 7) * 10 ^ 7) = -nearest (nearest (x / 10 ^ 7) * 10 ^ 7) := by
  rw [neg_div, nearest_neg, neg_mul, nearest_neg]

theorem nearest_nearest_natCast (m : ℕ) :
    nearest (nearest ((m : ℝ) / 10 ^ 7) * 10 ^ 7) = trip m := by
  have hquotient : nearest ((m : ℝ) / 10 ^ 7) = nearestMagnitude (m / 10 ^ 7) :=
    nearest_of_nonneg (by positivity)
  rw [hquotient, nearest_of_nonneg (mul_nonneg (nearestMagnitude_nonneg _) (by positivity))]
  rfl

/-- **What comes back of a fixed-point number.** It is the number itself, unless its magnitude slips;
then it is the next whole number toward zero. -/
theorem fixed_round_trip (n : Int32) :
    (floatingToFixed (fixedToFloating n)).toInt =
      if Slips n.toInt.natAbs then n.toInt - n.toInt.sign else n.toInt := by
  have hfloor := floor_trip (natAbs_toInt_le n)
  have hbound := natAbs_toInt_le n
  have hnonneg : 0 ≤ trip n.toInt.natAbs := nearestMagnitude_nonneg _
  have hhigh := n.toInt_lt
  rw [toInt_round_trip]
  rcases cast_toInt_cases n with ⟨hneg, hcast⟩ | ⟨hneg, hcast⟩
  · have hlt : n.toInt < 0 := Int32.lt_iff_toInt_lt.mp hneg
    rw [hcast, nearest_nearest_neg, nearest_nearest_natCast,
      truncatedInt_coe_of_nonpos (neg_nonpos.mpr hnonneg), neg_neg, hfloor,
      Int.sign_eq_neg_one_of_neg hlt]
    split_ifs <;> omega
  · have hge : 0 ≤ n.toInt := not_lt.mp fun h => hneg (Int32.lt_iff_toInt_lt.mpr h)
    rw [hcast, nearest_nearest_natCast, truncatedInt_coe_of_nonneg hnonneg, hfloor]
    rcases hge.lt_or_eq with hpos | hzero
    · rw [Int.sign_eq_one_of_pos hpos]
      split_ifs <;> omega
    · rw [← hzero]
      decide

/-- Twenty-one units are `0.0000021` degrees, and these are a little less than 21 units. -/
theorem twentyOne_slips : floatingToFixed (fixedToFloating 21) = 20 := by
  decide

end StreetLinkage
