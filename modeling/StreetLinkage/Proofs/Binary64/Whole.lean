import StreetLinkage.Proofs.Binary64.Arithmetic

/-!
# Whole numbers as floating numbers, and back

Whole numbers of at most 53 places are floating numbers. On the way back to a 32-bit word what lies
behind the point is cut off and what does not fit stops at the ends of the range (`truncated`).
-/

namespace StreetLinkage.Binary64

open Float.Model (Format totalExponent)
open Float.Model.UnpackedFloat

variable {x y : Float} {v w : EReal} {a b : ℝ}

/-! ### Numbers that need no rounding -/

theorem rounded_natCast {n : ℕ} (h : n ≤ 2 ^ 53) : rounded (n : ℝ) = ((n : ℝ) : EReal) := by
  rw [rounded_of_abs_le h (abs_of_nonneg n.cast_nonneg).le, nearest_natCast h]

/-- A whole number of at most 53 places, divided by a power of two, is a floating number. -/
theorem rounded_of_eq_div {a : ℝ} {z : ℤ} {d : ℕ} (hz : z.natAbs ≤ 2 ^ 53) (hd : d ≤ 1074)
    (h : a = z / 2 ^ d) : rounded a = (a : EReal) := by
  have hplaces : a = z * 2 ^ (-d : ℤ) := by
    rw [h, zpow_neg, zpow_natCast, div_eq_mul_inv]
  have hbound : |a| ≤ (2 ^ 53 : ℕ) := by
    rw [h, abs_div, abs_of_pos (by positivity : (0 : ℝ) < 2 ^ d), ← Int.cast_abs, ← Nat.cast_natAbs]
    calc (z.natAbs : ℝ) / 2 ^ d ≤ z.natAbs :=
          div_le_self (Nat.cast_nonneg _) (one_le_pow₀ (by norm_num))
      _ ≤ (2 ^ 53 : ℕ) := by exact_mod_cast hz
  rw [rounded_of_abs_le le_rfl hbound, hplaces, nearest_of_int_places hz (by omega)]

/-- Every rounded result is that of a floating number. -/
theorem exists_value?_eq_rounded (a : ℝ) : ∃ x, value? x = some (rounded a) := by
  obtain ⟨z, e, hz, he, hplaces⟩ := exists_nearest_eq a
  have hgrid : nearest (nearest a) = nearest a := by
    rw [hplaces, nearest_of_int_places hz he]
  refine ⟨⟨Float.Model.pack (.normalize .binary64 z e .positive)⟩, ?_⟩
  have hvalue := value?_pack (represents_normalize z e .positive)
  rwa [← hplaces, rounded_coe, hgrid, ← rounded_coe] at hvalue

/-! ### Whole numbers -/

theorem value?_normalize {n : ℕ} :
    unpackedValue? (Float.Model.pack (.ofNat .binary64 n)).unpack = some (rounded (n : ℝ)) := by
  have h := represents_normalize n 0 .positive
  rw [zpow_zero, mul_one, Int.cast_natCast] at h
  exact value?_pack h

theorem value?_toFloat (n : UInt32) : value? n.toFloat = some ((n.toNat : ℝ) : EReal) := by
  rw [← rounded_natCast (Nat.le_of_lt (n.toNat_lt.trans (by norm_num)))]
  exact value?_normalize

/-- A whole number of at most 53 places is a floating number. -/
theorem value?_ofNat {n : ℕ} (h : n < 2 ^ 53) : value? (.ofNat n) = some ((n : ℝ) : EReal) := by
  have hword : n.toUInt64.toNat = n := UInt64.toNat_ofNat_of_lt' (h.trans (by norm_num))
  have hwhole : value? n.toUInt64.toFloat = some ((n : ℝ) : EReal) := by
    rw [← rounded_natCast h.le]
    conv_rhs => rw [← hword]
    exact value?_normalize
  have hone : value? Float.exactlyRepresentablePowersOfTen[0] = some ((1 : ℝ) : EReal) := by
    show some ((signed .positive ((2 ^ 52 : ℕ) * 2 ^ (-52 : ℤ)) : ℝ) : EReal) = _
    norm_num [signed]
  have heq : Float.ofNat n = n.toUInt64.toFloat * Float.exactlyRepresentablePowersOfTen[0] :=
    dif_pos ⟨h, by decide⟩
  rw [heq, value?_mul hwhole hone, mul_one, rounded_natCast h.le]

/-! ### Words -/

/-- The word of a value: cut off behind the point, and held within the range. -/
noncomputable def truncated (v : EReal) : ℕ :=
  if v = ⊤ then 2 ^ 32 - 1 else min ⌊v.toReal⌋₊ (2 ^ 32 - 1)

theorem truncated_coe (a : ℝ) : truncated a = min ⌊a⌋₊ (2 ^ 32 - 1) := by
  rw [truncated, if_neg (EReal.coe_ne_top a), EReal.toReal_coe]

theorem truncated_mono : Monotone truncated := by
  intro v w h
  induction w with
  | top =>
      rw [truncated, truncated, if_pos rfl]
      split_ifs
      · exact le_rfl
      · exact min_le_right _ _
  | bot => rw [le_bot_iff.mp h]
  | coe b =>
      induction v with
      | top => exact absurd h (by simp)
      | bot => simp [truncated]
      | coe a =>
          rw [truncated_coe, truncated_coe]
          exact min_le_min_right _ (Nat.floor_mono (EReal.coe_le_coe_iff.mp h))

theorem toNat_ofNatClamp (n : ℕ) : (UInt32.ofNatClamp n).toNat = min n (2 ^ 32 - 1) := by
  unfold UInt32.ofNatClamp
  split
  · rename_i h
    rw [UInt32.toNat_ofNatLT]
    exact (min_eq_left (Nat.le_sub_one_of_lt h)).symm
  · rename_i h
    rw [UInt32.toNat_ofNatLT, min_eq_right]
    · rfl
    · exact (Nat.sub_le _ 1).trans (not_lt.mp h)

/-- Shifting to the exponent zero cuts off what lies behind the point. -/
theorem roundToInt_eq (s : Sign) (m : ℕ) (e : ℤ) :
    roundToInt s m e = s.apply (⌊(m : ℝ) * 2 ^ e⌋₊ : ℕ) := by
  set k := (e - 0).toNat with hk
  set j := (0 - (e - k)).toNat with hj
  have h := (locates_exact (m <<< k)).shiftRight j
  have heq : roundToInt s m e =
      s.apply ((ExtendedMantissa.ofMantissaAndAccuracy (m <<< k) .exact >>> j).mantissa : ℕ) := rfl
  rw [heq, ← h.floor_eq]
  congr 3
  rw [Nat.shiftLeft_eq]
  push_cast
  rw [div_eq_iff (by positivity), mul_assoc, ← zpow_natCast, ← zpow_natCast,
    ← zpow_add₀ (by norm_num)]
  congr 2
  omega

theorem toNat_toUInt32 (h : value? x = some v) : x.toUInt32.toNat = truncated v := by
  have heq : x.toUInt32 =
      UInt32.ofNatClamp (toInt 0 (2 ^ 32 - 1) x.toModel.unpack).toNat := rfl
  rw [heq, toNat_ofNatClamp]
  induction v with
  | top =>
      rw [eq_infinity_of_top h, truncated, if_pos rfl]
      rfl
  | bot =>
      rw [eq_infinity_of_bot h]
      simp [truncated, toInt]
  | coe a =>
      rw [truncated_coe]
      rcases (represents_of_value? h).cases with ⟨s, hzero, rfl⟩ | ⟨s, m, e, hm, hfinite, -, rfl⟩
      · rw [hzero]
        simp [toInt]
      · rw [hfinite]
        show min (roundToInt s m e).toNat _ = _
        rw [roundToInt_eq]
        cases s with
        | positive => rfl
        | negative =>
            have hfloor : ⌊-((m : ℝ) * 2 ^ e)⌋₊ = 0 :=
              Nat.floor_of_nonpos (neg_nonpos.mpr (by positivity))
            rw [signed, hfloor]
            simp [Sign.apply]

theorem toUInt32_mono (h : x ≤ y) : x.toUInt32.toNat ≤ y.toUInt32.toNat := by
  obtain ⟨v, w, hv, hw, hvw⟩ := le_iff.mp h
  rw [toNat_toUInt32 hv, toNat_toUInt32 hw]
  exact truncated_mono hvw

end StreetLinkage.Binary64
