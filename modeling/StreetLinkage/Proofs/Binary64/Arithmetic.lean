import StreetLinkage.Proofs.Binary64.Shortening

/-!
# Floating operations are correctly rounded

The sum, the difference, the product and the quotient of floating numbers are their exact results,
rounded. In each statement one of the two numbers is finite, and as a factor or a divisor of what
may be infinite it is positive; so the exact result is there.

With one number fixed, every operation keeps the order or turns it round: this is what the last
section reads off the rounding.
-/

namespace StreetLinkage.Binary64

open Float.Model (Format totalExponent)
open Float.Model.UnpackedFloat

/-! ### Operations on unpacked numbers -/

theorem signed_mul (s t : Sign) (x y : ℝ) : signed s x * signed t y = signed (s * t) (x * y) := by
  cases s <;> cases t <;> simp only [signed] <;> ring_nf

theorem signed_div (s t : Sign) (x y : ℝ) : signed s x / signed t y = signed (s / t) (x / y) := by
  cases s <;> cases t <;> simp only [signed, neg_div, div_neg, neg_neg] <;> rfl

/-- An unpacked number is canonical and has a real value. -/
structure Represents (a : Float.Model.UnpackedFloat) (x : ℝ) : Prop where
  canonical : IsCanonical a
  value : unpackedValue? a = some (x : EReal)

theorem represents_zero (s : Sign) : Represents (.zero s) 0 := ⟨trivial, rfl⟩

/-- A number with a real value is a zero or finite. -/
theorem Represents.cases {a : Float.Model.UnpackedFloat} {x : ℝ} (h : Represents a x) :
    (∃ s, a = .zero s ∧ x = 0) ∨
      ∃ s m e hm, a = .finite s m e hm ∧ Canonical m e ∧ x = signed s (m * 2 ^ e) := by
  obtain ⟨hcanonical, hvalue⟩ := h
  match a with
  | .notANumber => cases hvalue
  | .infinity .positive => exact absurd (Option.some.inj hvalue).symm (EReal.coe_ne_top x)
  | .infinity .negative => exact absurd (Option.some.inj hvalue).symm (EReal.coe_ne_bot x)
  | .zero s => exact Or.inl ⟨s, rfl, (EReal.coe_injective (Option.some.inj hvalue)).symm⟩
  | .finite s m e hm =>
      exact Or.inr ⟨s, m, e, hm, rfl, hcanonical, (EReal.coe_injective (Option.some.inj hvalue)).symm⟩

theorem Represents.nearest_eq {a : Float.Model.UnpackedFloat} {x : ℝ} (h : Represents a x) :
    nearest x = x := by
  rcases h.cases with ⟨s, -, rfl⟩ | ⟨s, m, e, hm, -, hcanonical, rfl⟩
  · exact nearest_zero
  · exact hcanonical.nearest_eq s

theorem represents_mul {a b : Float.Model.UnpackedFloat} {x y : ℝ} (ha : Represents a x)
    (hb : Represents b y) : Represents (a.mul .binary64 b) (nearest (x * y)) := by
  rcases ha.cases with ⟨s, rfl, rfl⟩ | ⟨s, m, e, hm, rfl, hme, rfl⟩
  · rw [zero_mul, nearest_zero]
    rcases hb.cases with ⟨t, rfl, -⟩ | ⟨t, n, f, hn, rfl, -, -⟩ <;> exact represents_zero _
  rcases hb.cases with ⟨t, rfl, rfl⟩ | ⟨t, n, f, hn, rfl, hnf, rfl⟩
  · rw [mul_zero, nearest_zero]
    exact represents_zero _
  have hlong : e + f ≤ Format.binary64.targetExponent (totalExponent (m * n) (e + f)) := by
    rw [targetExponent_eq]
    -- A product shorter than 53 places is one of two mantissas at the least exponent.
    by_cases hfull : 2 ^ 52 ≤ m * n
    · have := (Nat.le_log2 (Nat.mul_pos hm hn).ne').mpr hfull
      omega
    · have hm' : m < 2 ^ 52 := by
        by_contra h
        exact hfull ((not_lt.mp h).trans (Nat.le_mul_of_pos_right m hn))
      have hn' : n < 2 ^ 52 := by
        by_contra h
        exact hfull ((not_lt.mp h).trans (Nat.le_mul_of_pos_left n hm))
      have he := hme.full.resolve_left (by omega)
      have hf := hnf.full.resolve_left (by omega)
      omega
  obtain ⟨hcanonical, hvalue⟩ := roundWithAccuracy_spec (s * t) (locates_exact (m * n)) hlong
  refine ⟨hcanonical, hvalue.trans ?_⟩
  rw [signed_mul, nearest_signed _ (by positivity), zpow_add₀ (by norm_num)]
  push_cast
  ring_nf

/-- The remainder of a division says where the quotient lies. -/
theorem locates_div (n : ℕ) {d : ℕ} (hd : 0 < d) :
    Locates (.ofMantissaAndAccuracy (n / d) (accuracyOfFraction (n % d) d)) ((n : ℝ) / d) := by
  have hpos : (0 : ℝ) < d := by exact_mod_cast hd
  have hlt : ((n % d : ℕ) : ℝ) < d := by exact_mod_cast Nat.mod_lt n hd
  rw [natCast_div_eq n hd]
  generalize n / d = q at *
  generalize n % d = r at *
  unfold accuracyOfFraction
  by_cases hr : r = 0
  · rw [if_pos hr, hr, Nat.cast_zero, zero_div, add_zero]
    exact locates_exact q
  have hr' : (0 : ℝ) < r := by exact_mod_cast Nat.pos_of_ne_zero hr
  rw [if_neg hr]
  rcases lt_trichotomy (2 * r) d with h | h | h
  · have h' : (2 : ℝ) * r < d := by exact_mod_cast h
    rw [compare_lt_iff_lt.mpr h]
    exact ⟨lt_add_of_pos_right _ (by positivity),
      add_lt_add_right ((div_lt_iff₀ hpos).mpr (by linarith)) _⟩
  · have h' : (2 : ℝ) * r = d := by exact_mod_cast h
    rw [compare_eq_iff_eq.mpr h]
    show _ = _
    rw [middle, ← h']
    field_simp
  · have h' : (d : ℝ) < 2 * r := by exact_mod_cast h
    rw [compare_gt_iff_gt.mpr h]
    exact ⟨add_lt_add_right ((lt_div_iff₀ hpos).mpr (by linarith)) _,
      add_lt_add_right ((div_lt_one hpos).mpr hlt) _⟩

theorem represents_div {a b : Float.Model.UnpackedFloat} {x y : ℝ} (ha : Represents a x)
    (hb : Represents b y) (hy : y ≠ 0) : Represents (a.div .binary64 b) (nearest (x / y)) := by
  rcases hb.cases with ⟨t, -, rfl⟩ | ⟨t, n, f, hn, rfl, hnf, rfl⟩
  · exact absurd rfl hy
  rcases ha.cases with ⟨s, rfl, rfl⟩ | ⟨s, m, e, hm, rfl, hme, rfl⟩
  · rw [zero_div, nearest_zero]
    exact represents_zero _
  -- The dividend is shifted until its quotient has 53 places, or the least exponent is reached.
  set t' := min (e - f) (Format.binary64.targetExponent (totalExponent m e - totalExponent n f))
    with ht'
  set k := (e - f - t').toNat with hk
  have hexp : t' + k = e - f := by omega
  have htarget : Format.binary64.targetExponent (totalExponent m e - totalExponent n f) =
      max ((m.log2 : ℤ) + e - n.log2 - f - 53) (-1074) := by
    show max (_ - (53 : ℤ)) (-1074) = _
    unfold totalExponent
    congr 1
    ring
  have hlong : t' ≤ Format.binary64.targetExponent (totalExponent (m <<< k / n) t') := by
    rw [targetExponent_eq]
    rcases le_or_gt t' (-1074) with hleast | hleast
    · omega
    have hshift : n.log2 + 53 ≤ m.log2 + k := by omega
    have hquot : 2 ^ 52 ≤ m <<< k / n := by
      rw [Nat.le_div_iff_mul_le hn, Nat.shiftLeft_eq]
      calc 2 ^ 52 * n ≤ 2 ^ 52 * 2 ^ (n.log2 + 1) :=
            Nat.mul_le_mul_left _ Nat.lt_log2_self.le
        _ = 2 ^ (n.log2 + 53) := by ring
        _ ≤ 2 ^ (m.log2 + k) := Nat.pow_le_pow_right (by decide) hshift
        _ = 2 ^ m.log2 * 2 ^ k := pow_add _ _ _
        _ ≤ m * 2 ^ k := Nat.mul_le_mul_right _ (Nat.log2_self_le hm.ne')
    have := (Nat.le_log2 (by omega)).mpr hquot
    omega
  obtain ⟨hcanonical, hvalue⟩ := roundWithAccuracy_spec (s / t) (locates_div (m <<< k) hn) hlong
  refine ⟨hcanonical, hvalue.trans ?_⟩
  rw [signed_div, nearest_signed _ (by positivity)]
  congr 4
  rw [Nat.shiftLeft_eq, ← mul_div_mul_right _ _ (by positivity : (2 : ℝ) ^ f ≠ 0)]
  have hsplit : (2 : ℝ) ^ e = 2 ^ k * 2 ^ t' * 2 ^ f := by
    rw [← zpow_natCast, ← zpow_add₀ (by norm_num), ← zpow_add₀ (by norm_num)]
    congr 1
    omega
  rw [hsplit]
  push_cast
  field_simp

theorem log2_shiftLeft {m : ℕ} (hm : 0 < m) (k : ℕ) : (m <<< k).log2 = m.log2 + k := by
  have hpos : 0 < 2 ^ k := Nat.two_pow_pos k
  rw [Nat.shiftLeft_eq, Nat.log2_eq_iff (Nat.mul_pos hm hpos).ne', pow_add, add_right_comm, pow_add]
  exact ⟨Nat.mul_le_mul_right _ (Nat.log2_self_le hm.ne'),
    Nat.mul_lt_mul_of_pos_right Nat.lt_log2_self hpos⟩

/-- A whole number of units of any exponent is put on the grid. -/
theorem represents_round (s : Sign) {m : ℕ} (e : ℤ) (hm : 0 < m) :
    Represents (round .binary64 s m e) (nearest (signed s (m * 2 ^ e))) := by
  set k := (e - Format.binary64.targetExponent (totalExponent m e)).toNat with hk
  have hlog : (m <<< k).log2 = m.log2 + k := log2_shiftLeft hm k
  have hlong : e - k ≤ Format.binary64.targetExponent (totalExponent (m <<< k) (e - k)) := by
    rw [targetExponent_eq] at hk
    rw [targetExponent_eq, hlog]
    push_cast
    omega
  have heq : round .binary64 s m e = roundWithAccuracy .binary64 s (m <<< k) (e - k) .exact := rfl
  obtain ⟨hcanonical, hvalue⟩ := roundWithAccuracy_spec s (locates_exact (m <<< k)) hlong
  refine ⟨heq ▸ hcanonical, heq ▸ hvalue.trans ?_⟩
  rw [nearest_signed s (by positivity), Nat.shiftLeft_eq]
  push_cast
  rw [mul_assoc, ← zpow_natCast, ← zpow_add₀ (by norm_num), add_sub_cancel]

theorem represents_normalize (n e : ℤ) (zero : Sign) :
    Represents (Float.Model.UnpackedFloat.normalize .binary64 n e zero) (nearest (n * 2 ^ e)) := by
  unfold Float.Model.UnpackedFloat.normalize
  rcases lt_trichotomy n 0 with hn | rfl | hn
  · have hcast : ((-n).toNat : ℝ) = -n := by
      exact_mod_cast Int.toNat_of_nonneg (show 0 ≤ -n by omega)
    rw [compare_lt_iff_lt.mpr hn]
    have h := represents_round .negative e (show 0 < (-n).toNat by omega)
    rwa [hcast, signed, neg_mul, neg_neg] at h
  · rw [compare_eq_iff_eq.mpr rfl, Int.cast_zero, zero_mul, nearest_zero]
    exact represents_zero zero
  · have hcast : (n.toNat : ℝ) = n := by exact_mod_cast Int.toNat_of_nonneg hn.le
    rw [compare_gt_iff_gt.mpr hn]
    have h := represents_round .positive e (show 0 < n.toNat by omega)
    rwa [hcast] at h

theorem signed_shift (s : Sign) (m : ℕ) {e t : ℤ} (h : t ≤ e) :
    ((s.apply (m <<< (e - t).toNat : ℕ) : ℤ) : ℝ) * 2 ^ t = signed s (m * 2 ^ e) := by
  have hshift : ((m <<< (e - t).toNat : ℕ) : ℝ) * 2 ^ t = m * 2 ^ e := by
    rw [Nat.shiftLeft_eq]
    push_cast
    rw [mul_assoc, ← zpow_natCast, ← zpow_add₀ (by norm_num), Int.toNat_of_nonneg (by omega),
      sub_add_cancel]
  cases s with
  | positive => exact hshift
  | negative =>
      rw [signed, ← hshift]
      simp only [Sign.apply, Int.cast_neg, Int.cast_natCast, neg_mul]

theorem represents_add {a b : Float.Model.UnpackedFloat} {x y : ℝ} (ha : Represents a x)
    (hb : Represents b y) : Represents (a.add .binary64 b) (nearest (x + y)) := by
  rcases ha.cases with ⟨s, rfl, rfl⟩ | ⟨s, m, e, hm, rfl, hme, rfl⟩
  · rw [zero_add, hb.nearest_eq]
    rcases hb.cases with ⟨t, rfl, rfl⟩ | ⟨t, n, f, hn, rfl, -, -⟩
    · cases s <;> cases t <;> exact represents_zero _
    · exact hb
  rcases hb.cases with ⟨t, rfl, rfl⟩ | ⟨t, n, f, hn, rfl, hnf, rfl⟩
  · rw [add_zero, ha.nearest_eq]
    exact ha
  have h := represents_normalize
    (s.apply (m <<< (e - min e f).toNat : ℕ) + t.apply (n <<< (f - min e f).toNat : ℕ)) (min e f)
    .positive
  rwa [Int.cast_add, add_mul, signed_shift s m (min_le_left e f),
    signed_shift t n (min_le_right e f)] at h

theorem signed_neg (s : Sign) (x : ℝ) : signed (-s) x = -signed s x := by
  cases s
  · exact (neg_neg x).symm
  · rfl

theorem isCanonical_neg {a : Float.Model.UnpackedFloat} (h : IsCanonical a) : IsCanonical a.neg := by
  cases a <;> exact h

theorem unpackedValue?_neg (a : Float.Model.UnpackedFloat) :
    unpackedValue? a.neg = (unpackedValue? a).map (- ·) := by
  match a with
  | .notANumber => rfl
  | .infinity .positive => rfl
  | .infinity .negative => rfl
  | .zero s => exact congrArg some neg_zero.symm
  | .finite s m e hm =>
      show some ((signed (-s) _ : ℝ) : EReal) = some (-((signed s _ : ℝ) : EReal))
      rw [signed_neg, EReal.coe_neg]

theorem Represents.neg {a : Float.Model.UnpackedFloat} {x : ℝ} (h : Represents a x) :
    Represents a.neg (-x) := by
  refine ⟨isCanonical_neg h.canonical, ?_⟩
  rw [unpackedValue?_neg, h.value, Option.map_some, EReal.coe_neg]

/-- A difference is the sum with the opposite number. -/
theorem sub_eq_add_neg' (a b : Float.Model.UnpackedFloat) :
    a.sub .binary64 b = a.add .binary64 b.neg := by
  cases a with
  | finite s m e hm =>
      cases b with
      | finite t n f hn =>
          have hneg : (-t).apply = fun n => -t.apply n := by
            funext n
            cases t
            · exact (neg_neg n).symm
            · rfl
          show Float.Model.UnpackedFloat.normalize _ _ _ _ =
            Float.Model.UnpackedFloat.normalize _ _ _ _
          rw [hneg]
          rfl
      | _ => rfl
  | zero s => cases b with
      | zero t => cases t <;> rfl
      | _ => rfl
  | infinity s => cases b with
      | infinity t => cases t <;> rfl
      | _ => rfl
  | notANumber => cases b <;> rfl

/-! ### Operations on floating numbers -/

/-- What is packed is a finite result, rounded. -/
theorem value?_pack {a : Float.Model.UnpackedFloat} {x : ℝ} (h : Represents a (nearest x)) :
    unpackedValue? (Float.Model.pack a).unpack = some (rounded x) := by
  rw [rounded_coe]
  rcases h.cases with ⟨s, rfl, hx⟩ | ⟨s, m, e, hm, rfl, hme, hx⟩
  · rw [hx, bounded_of_abs_lt (abs_zero.trans_lt limit_pos)]
    cases s <;> rfl
  · rw [hx]
    exact unpackedValue?_pack hme

theorem value?_pack_infinity (s : Sign) :
    unpackedValue? (Float.Model.pack (.infinity s)).unpack = unpackedValue? (.infinity s) := by
  cases s <;> rfl

theorem eq_infinity_of_top {a : Float.Model.UnpackedFloat} (h : unpackedValue? a = some ⊤) :
    a = .infinity .positive := by
  match a with
  | .notANumber => cases h
  | .infinity .positive => rfl
  | .infinity .negative => exact absurd (Option.some.inj h) bot_ne_top
  | .zero s => exact absurd (Option.some.inj h) EReal.zero_ne_top
  | .finite s m e hm => exact absurd (Option.some.inj h) (EReal.coe_ne_top _)

theorem eq_infinity_of_bot {a : Float.Model.UnpackedFloat} (h : unpackedValue? a = some ⊥) :
    a = .infinity .negative := by
  match a with
  | .notANumber => cases h
  | .infinity .negative => rfl
  | .infinity .positive => exact absurd (Option.some.inj h) top_ne_bot
  | .zero s => exact absurd (Option.some.inj h) EReal.zero_ne_bot
  | .finite s m e hm => exact absurd (Option.some.inj h) (EReal.coe_ne_bot _)

theorem Represents.cases_of_pos {a : Float.Model.UnpackedFloat} {x : ℝ} (h : Represents a x)
    (hx : 0 < x) : ∃ m e hm, a = .finite .positive m e hm := by
  rcases h.cases with ⟨s, -, rfl⟩ | ⟨s, m, e, hm, rfl, -, rfl⟩
  · exact absurd hx (lt_irrefl 0)
  · cases s with
    | positive => exact ⟨m, e, hm, rfl⟩
    | negative =>
        have : (0 : ℝ) ≤ m * 2 ^ e := by positivity
        exact absurd hx (by simp only [signed]; linarith)

theorem Represents.infinity_add {b : Float.Model.UnpackedFloat} {y : ℝ} (hb : Represents b y)
    (s : Sign) : (Float.Model.UnpackedFloat.infinity s).add .binary64 b = .infinity s := by
  rcases hb.cases with ⟨t, rfl, -⟩ | ⟨t, n, f, hn, rfl, -, -⟩ <;> rfl

theorem Represents.add_infinity {a : Float.Model.UnpackedFloat} {x : ℝ} (ha : Represents a x)
    (t : Sign) : a.add .binary64 (.infinity t) = .infinity t := by
  rcases ha.cases with ⟨s, rfl, -⟩ | ⟨s, m, e, hm, rfl, -, -⟩ <;> rfl

theorem value?_pack_add {a b : Float.Model.UnpackedFloat} {v : EReal} {y : ℝ} (ha : IsCanonical a)
    (hv : unpackedValue? a = some v) (hb : Represents b y) :
    unpackedValue? (Float.Model.pack (a.add .binary64 b)).unpack = some (rounded (v + y)) := by
  induction v with
  | coe x => exact_mod_cast value?_pack (represents_add ⟨ha, hv⟩ hb)
  | top =>
      rw [eq_infinity_of_top hv, hb.infinity_add, value?_pack_infinity, EReal.top_add_coe, rounded_top]
      rfl
  | bot =>
      rw [eq_infinity_of_bot hv, hb.infinity_add, value?_pack_infinity, EReal.bot_add, rounded_bot]
      rfl

theorem value?_pack_add' {a b : Float.Model.UnpackedFloat} {x : ℝ} {w : EReal} (ha : Represents a x)
    (hb : IsCanonical b) (hw : unpackedValue? b = some w) :
    unpackedValue? (Float.Model.pack (a.add .binary64 b)).unpack = some (rounded (x + w)) := by
  induction w with
  | coe y => exact_mod_cast value?_pack (represents_add ha ⟨hb, hw⟩)
  | top =>
      rw [eq_infinity_of_top hw, ha.add_infinity, value?_pack_infinity, EReal.coe_add_top, rounded_top]
      rfl
  | bot =>
      rw [eq_infinity_of_bot hw, ha.add_infinity, value?_pack_infinity, EReal.add_bot, rounded_bot]
      rfl

variable {x y : Float} {v w : EReal} {a b : ℝ}

theorem represents_of_value? (h : value? x = some (a : EReal)) :
    Represents x.toModel.unpack a :=
  ⟨isCanonical_unpack _, h⟩

/-- A value that is real is not too large for the format. -/
theorem abs_lt_limit_of_value? (h : value? x = some (a : EReal)) : |a| < limit := by
  rcases (represents_of_value? h).cases with ⟨s, -, rfl⟩ | ⟨s, m, e, hm, hfinite, hme, rfl⟩
  · simpa using limit_pos
  · have hmag : |signed s ((m : ℝ) * 2 ^ e)| = m * 2 ^ e := by
      cases s with
      | positive => rw [signed, abs_of_nonneg (by positivity)]
      | negative => rw [signed, abs_neg, abs_of_nonneg (by positivity)]
    rw [hmag]
    exact hme.lt_limit (canonical_unpack hfinite).2

theorem value?_neg (h : value? x = some v) : value? (-x) = some (-v) := by
  induction v with
  | top =>
      show unpackedValue? (Float.Model.pack (.neg _)).unpack = _
      rw [eq_infinity_of_top h, EReal.neg_top]
      exact value?_pack_infinity .negative
  | bot =>
      show unpackedValue? (Float.Model.pack (.neg _)).unpack = _
      rw [eq_infinity_of_bot h, EReal.neg_bot]
      exact value?_pack_infinity .positive
  | coe a =>
      have hneg := (represents_of_value? h).neg
      have hvalue : value? (-x) = some (rounded (-a : ℝ)) :=
        value?_pack (hneg.nearest_eq.symm ▸ hneg)
      have hlimit : |-a| < limit := (abs_neg a).trans_lt (abs_lt_limit_of_value? h)
      rw [hvalue, rounded_coe, hneg.nearest_eq, bounded_of_abs_lt hlimit, EReal.coe_neg]

theorem value?_mul (hx : value? x = some (a : EReal)) (hy : value? y = some (b : EReal)) :
    value? (x * y) = some (rounded (a * b : ℝ)) :=
  value?_pack (represents_mul (represents_of_value? hx) (represents_of_value? hy))

theorem value?_mul_of_pos (hx : value? x = some v) (hy : value? y = some (b : EReal)) (hb : 0 < b) :
    value? (x * y) = some (rounded (v * b)) := by
  obtain ⟨n, f, hn, hfinite⟩ := (represents_of_value? hy).cases_of_pos hb
  induction v with
  | coe a => exact_mod_cast value?_mul hx hy
  | top =>
      show unpackedValue? (Float.Model.pack (.mul .binary64 _ _)).unpack = _
      rw [eq_infinity_of_top hx, hfinite, EReal.top_mul_coe_of_pos hb, rounded_top]
      exact value?_pack_infinity .positive
  | bot =>
      show unpackedValue? (Float.Model.pack (.mul .binary64 _ _)).unpack = _
      rw [eq_infinity_of_bot hx, hfinite, EReal.bot_mul_coe_of_pos hb, rounded_bot]
      exact value?_pack_infinity .negative

theorem value?_div (hx : value? x = some (a : EReal)) (hy : value? y = some (b : EReal))
    (hb : b ≠ 0) : value? (x / y) = some (rounded (a / b : ℝ)) :=
  value?_pack (represents_div (represents_of_value? hx) (represents_of_value? hy) hb)

theorem value?_div_of_pos (hx : value? x = some v) (hy : value? y = some (b : EReal)) (hb : 0 < b) :
    value? (x / y) = some (rounded (v / (b : EReal))) := by
  obtain ⟨n, f, hn, hfinite⟩ := (represents_of_value? hy).cases_of_pos hb
  have hpos : (0 : EReal) < b := EReal.coe_pos.mpr hb
  induction v with
  | coe a => exact_mod_cast value?_div hx hy hb.ne'
  | top =>
      show unpackedValue? (Float.Model.pack (.div .binary64 _ _)).unpack = _
      rw [eq_infinity_of_top hx, hfinite, EReal.top_div_of_pos_ne_top hpos (EReal.coe_ne_top b),
        rounded_top]
      exact value?_pack_infinity .positive
  | bot =>
      show unpackedValue? (Float.Model.pack (.div .binary64 _ _)).unpack = _
      rw [eq_infinity_of_bot hx, hfinite, EReal.bot_div_of_pos_ne_top hpos (EReal.coe_ne_top b),
        rounded_bot]
      exact value?_pack_infinity .negative

theorem value?_add (hx : value? x = some v) (hy : value? y = some (b : EReal)) :
    value? (x + y) = some (rounded (v + b)) :=
  value?_pack_add (isCanonical_unpack _) hx (represents_of_value? hy)

theorem value?_sub (hx : value? x = some v) (hy : value? y = some (b : EReal)) :
    value? (x - y) = some (rounded (v - b)) := by
  show unpackedValue? (Float.Model.pack (.sub .binary64 _ _)).unpack = _
  rw [sub_eq_add_neg', sub_eq_add_neg, ← EReal.coe_neg]
  exact value?_pack_add (isCanonical_unpack _) hx (represents_of_value? hy).neg

theorem value?_coe_sub (hx : value? x = some (a : EReal)) (hy : value? y = some w) :
    value? (x - y) = some (rounded (a - w)) := by
  show unpackedValue? (Float.Model.pack (.sub .binary64 _ _)).unpack = _
  rw [sub_eq_add_neg', sub_eq_add_neg]
  refine value?_pack_add' (represents_of_value? hx) (isCanonical_neg (isCanonical_unpack _)) ?_
  rw [unpackedValue?_neg, show unpackedValue? y.toModel.unpack = some w from hy, Option.map_some]

/-! ### Operations keep the order -/

variable {c : Float}

theorem mul_le_mul_right_of_pos (h : x ≤ y) (hc : value? c = some (b : EReal)) (hb : 0 < b) :
    x * c ≤ y * c := by
  obtain ⟨v, w, hv, hw, hvw⟩ := le_iff.mp h
  rw [le_iff_of_value? (value?_mul_of_pos hv hc hb) (value?_mul_of_pos hw hc hb)]
  exact rounded_mono (mul_le_mul_of_nonneg_right hvw (EReal.coe_nonneg.mpr hb.le))

theorem div_le_div_right_of_pos (h : x ≤ y) (hc : value? c = some (b : EReal)) (hb : 0 < b) :
    x / c ≤ y / c := by
  obtain ⟨v, w, hv, hw, hvw⟩ := le_iff.mp h
  rw [le_iff_of_value? (value?_div_of_pos hv hc hb) (value?_div_of_pos hw hc hb)]
  exact rounded_mono (EReal.div_le_div_right_of_nonneg (EReal.coe_nonneg.mpr hb.le) hvw)

theorem add_le_add_right_of_finite (h : x ≤ y) (hc : value? c = some (b : EReal)) :
    x + c ≤ y + c := by
  obtain ⟨v, w, hv, hw, hvw⟩ := le_iff.mp h
  rw [le_iff_of_value? (value?_add hv hc) (value?_add hw hc)]
  exact rounded_mono (add_le_add_left hvw _)

/-- A difference falls as what is taken away grows. -/
theorem sub_le_sub_left_of_finite (h : x ≤ y) (hc : value? c = some (b : EReal)) :
    c - y ≤ c - x := by
  obtain ⟨v, w, hv, hw, hvw⟩ := le_iff.mp h
  rw [le_iff_of_value? (value?_coe_sub hc hw) (value?_coe_sub hc hv)]
  exact rounded_mono (EReal.sub_le_sub le_rfl hvw)

end StreetLinkage.Binary64
