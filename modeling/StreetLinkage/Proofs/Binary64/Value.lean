import StreetLinkage.Proofs.Binary64.Nearest

/-!
# Values of floating numbers

A `Float` is a word of 64 bits that is unpacked into a sign, a whole mantissa and an exponent of
two. Its value is a real number or an infinity; no number at all has no value (`value?`).

What is unpacked is canonical (`canonical_unpack`): numbers of one sign are ordered like their
exponents first and their mantissas then. Hence comparing floating numbers is comparing their values
(`le_iff`, `lt_iff_of_value?`), and packing a canonical number changes its value only where it is too large
(`value?_pack`).
-/

namespace StreetLinkage.Binary64

open Float.Model (Format)
open Float.Model.UnpackedFloat

/-! ### Values -/

/-- A magnitude with a sign. -/
def signed : Sign → ℝ → ℝ
  | .positive, x => x
  | .negative, x => -x

@[simp] theorem signed_zero (s : Sign) : signed s 0 = 0 := by
  cases s <;> simp [signed]

theorem nearest_signed (s : Sign) {x : ℝ} (h : 0 ≤ x) :
    nearest (signed s x) = signed s (nearestMagnitude x) := by
  cases s with
  | positive => exact nearest_of_nonneg h
  | negative => rw [signed, nearest_neg, nearest_of_nonneg h, signed]

/-- The value of an unpacked number, if it is a number. -/
noncomputable def unpackedValue? : Float.Model.UnpackedFloat → Option EReal
  | .notANumber => none
  | .infinity .positive => some ⊤
  | .infinity .negative => some ⊥
  | .zero _ => some 0
  | .finite s m e _ => some (signed s (m * place e) : ℝ)

theorem unpackedValue?_finite (s : Sign) (m : ℕ) (e : ℤ) (h : 0 < m) :
    unpackedValue? (.finite s m e h) = some ((signed s (m * 2 ^ e) : ℝ) : EReal) :=
  rfl

/-- The value of a floating number, if it is a number. -/
noncomputable def value? (x : Float) : Option EReal :=
  unpackedValue? x.toModel.unpack

/-! ### Canonical numbers -/

/-- A mantissa of at most 53 places, and of exactly 53 unless the exponent is the least one. -/
structure Canonical (m : ℕ) (e : ℤ) : Prop where
  lt : m < 2 ^ 53
  le : -1074 ≤ e
  full : 2 ^ 52 ≤ m ∨ e = -1074

/-- Every finite number is canonical. -/
def IsCanonical : Float.Model.UnpackedFloat → Prop
  | .finite _ m e _ => Canonical m e
  | _ => True

theorem Canonical.nearest_eq {m : ℕ} {e : ℤ} (h : Canonical m e) (s : Sign) :
    nearest (signed s (m * 2 ^ e)) = signed s (m * 2 ^ e) := by
  rw [nearest_signed s (by positivity), nearestMagnitude_of_places h.lt.le h.le]

/-- A number with the smaller exponent is the smaller number. -/
theorem Canonical.lt_of_exponent_lt {m n : ℕ} {e f : ℤ} (hm : Canonical m e) (hn : Canonical n f)
    (h : e < f) : (m : ℝ) * 2 ^ e < n * 2 ^ f := by
  have hfull : 2 ^ 52 ≤ n := hn.full.resolve_right (hm.le.trans_lt h).ne'
  calc (m : ℝ) * 2 ^ e < (2 ^ 53 : ℕ) * 2 ^ e :=
        mul_lt_mul_of_pos_right (by exact_mod_cast hm.lt) (by positivity)
    _ = (2 ^ 52 : ℕ) * 2 ^ (e + 1) := by
        rw [zpow_add₀ (by norm_num)]
        norm_num
        ring
    _ ≤ n * 2 ^ f :=
        mul_le_mul (by exact_mod_cast hfull) (zpow_le_zpow_right₀ (by norm_num) (by omega))
          (by positivity) (by positivity)

/-- Canonical magnitudes are compared by their exponents and then by their mantissas. -/
theorem Canonical.compare_eq {m n : ℕ} {e f : ℤ} (hm : Canonical m e) (hn : Canonical n f) :
    (compare e f).then (compare m n) = compare ((m : ℝ) * 2 ^ e) (n * 2 ^ f) := by
  rcases lt_trichotomy e f with h | rfl | h
  · rw [compare_lt_iff_lt.mpr h, compare_lt_iff_lt.mpr (hm.lt_of_exponent_lt hn h)]
    rfl
  · have hpos : (0 : ℝ) < 2 ^ e := by positivity
    rw [compare_eq_iff_eq.mpr rfl]
    rcases lt_trichotomy m n with h | rfl | h
    · rw [compare_lt_iff_lt.mpr h, compare_lt_iff_lt.mpr]
      · rfl
      · exact mul_lt_mul_of_pos_right (by exact_mod_cast h) hpos
    · rw [compare_eq_iff_eq.mpr rfl, compare_eq_iff_eq.mpr rfl]
      rfl
    · rw [compare_gt_iff_gt.mpr h, compare_gt_iff_gt.mpr]
      · rfl
      · exact mul_lt_mul_of_pos_right (by exact_mod_cast h) hpos
  · rw [compare_gt_iff_gt.mpr h, compare_gt_iff_gt.mpr (hn.lt_of_exponent_lt hm h)]
    rfl

/-! ### Comparing is comparing values -/

theorem compare_coe (x y : ℝ) : compare (x : EReal) (y : EReal) = compare x y := by
  rcases lt_trichotomy x y with h | rfl | h
  · rw [compare_lt_iff_lt.mpr h, compare_lt_iff_lt.mpr (EReal.coe_lt_coe_iff.mpr h)]
  · rw [compare_eq_iff_eq.mpr rfl, compare_eq_iff_eq.mpr rfl]
  · rw [compare_gt_iff_gt.mpr h, compare_gt_iff_gt.mpr (EReal.coe_lt_coe_iff.mpr h)]

theorem compare_neg (x y : ℝ) : compare (-x) (-y) = (compare x y).swap := by
  rcases lt_trichotomy x y with h | rfl | h
  · rw [compare_lt_iff_lt.mpr h, compare_gt_iff_gt.mpr (neg_lt_neg h)]
    rfl
  · rw [compare_eq_iff_eq.mpr rfl, compare_eq_iff_eq.mpr rfl]
    rfl
  · rw [compare_gt_iff_gt.mpr h, compare_lt_iff_lt.mpr (neg_lt_neg h)]
    rfl

theorem compare_unpacked {a b : Float.Model.UnpackedFloat} {v w : EReal} (ha : IsCanonical a)
    (hb : IsCanonical b) (hv : unpackedValue? a = some v) (hw : unpackedValue? b = some w) :
    a.compare b = some (compare v w) := by
  have hmag : ∀ (m : ℕ) (e : ℤ), 0 < m → (0 : ℝ) < m * 2 ^ e := by
    intro m e hm
    positivity
  have hlt : ∀ {v w : EReal}, v < w → some Ordering.lt = some (compare v w) :=
    fun h => congrArg some (compare_lt_iff_lt.mpr h).symm
  have hgt : ∀ {v w : EReal}, w < v → some Ordering.gt = some (compare v w) :=
    fun h => congrArg some (compare_gt_iff_gt.mpr h).symm
  have heq : ∀ {v : EReal}, some Ordering.eq = some (compare v v) :=
    congrArg some (compare_eq_iff_eq.mpr rfl).symm
  cases a with
  | notANumber => cases hv
  | infinity s =>
      cases b with
      | notANumber => cases hw
      | infinity t =>
          cases s <;> cases t <;> cases hv <;> cases hw
          · exact heq
          · exact hlt bot_lt_top
          · exact hgt bot_lt_top
          · exact heq
      | zero t =>
          cases s <;> cases hv <;> cases hw
          · exact hlt EReal.bot_lt_zero
          · exact hgt EReal.zero_lt_top
      | finite t n f hn =>
          cases s <;> cases hv <;> cases hw
          · exact hlt (EReal.bot_lt_coe _)
          · exact hgt (EReal.coe_lt_top _)
  | zero s =>
      cases b with
      | notANumber => cases hw
      | infinity t =>
          cases t <;> cases hv <;> cases hw
          · exact hgt EReal.bot_lt_zero
          · exact hlt EReal.zero_lt_top
      | zero t =>
          cases hv
          cases hw
          exact heq
      | finite t n f hn =>
          cases t <;> cases hv <;> cases hw
          · exact hgt (EReal.coe_neg'.mpr (neg_lt_zero.mpr (hmag n f hn)))
          · exact hlt (EReal.coe_pos.mpr (hmag n f hn))
  | finite s m e hm =>
      cases b with
      | notANumber => cases hw
      | infinity t =>
          cases t <;> cases hv <;> cases hw
          · exact hgt (EReal.bot_lt_coe _)
          · exact hlt (EReal.coe_lt_top _)
      | zero t =>
          cases s <;> cases hv <;> cases hw
          · exact hlt (EReal.coe_neg'.mpr (neg_lt_zero.mpr (hmag m e hm)))
          · exact hgt (EReal.coe_pos.mpr (hmag m e hm))
      | finite t n f hn =>
          have hm' := hmag m e hm
          have hn' := hmag n f hn
          rw [unpackedValue?_finite] at hv hw
          cases hv
          cases hw
          rw [compare_coe]
          cases s <;> cases t
          · rw [signed, signed, compare_neg, ← Canonical.compare_eq ha hb]
            rfl
          · exact congrArg some (compare_lt_iff_lt.mpr (by simp only [signed]; linarith)).symm
          · exact congrArg some (compare_gt_iff_gt.mpr (by simp only [signed]; linarith)).symm
          · rw [signed, signed, ← Canonical.compare_eq ha hb]
            rfl

/-! ### Unpacking and packing -/

theorem toNat_one_append (v : BitVec 52) : (1#1 ++ v).toNat = 2 ^ 52 + v.toNat := by
  rw [BitVec.toNat_append, ← Nat.shiftLeft_add_eq_or_of_lt v.isLt]
  rfl

/-- What is unpacked is canonical, and its exponent is none that is kept for infinities. -/
theorem canonical_unpack {x : Float.Model} {s : Sign} {m : ℕ} {e : ℤ} {hm : 0 < m}
    (h : x.unpack = .finite s m e hm) : Canonical m e ∧ e ≤ 971 := by
  set b := x.toBits.toBitVec with hb
  have hmant : (@unpackMantissa .binary64 b).toNat < 2 ^ 52 := (@unpackMantissa .binary64 b).isLt
  have hexp : (@unpackExponent .binary64 b).toNat < 2 ^ 11 := (@unpackExponent .binary64 b).isLt
  have hbias : ((Format.binary64.exponentBias : ℕ) : ℤ) = 1023 := rfl
  unfold Float.Model.unpack unpack at h
  rw [← hb] at h
  dsimp only at h
  split at h
  · split at h <;> cases h
  rename_i hinf
  have hexp_ne : (@unpackExponent .binary64 b).toNat ≠ 2047 := fun h =>
    hinf (BitVec.eq_of_toNat_eq h)
  split at h
  · rename_i hsub
    split at h
    · cases h
    · cases h
      rw [hsub, hbias]
      exact ⟨⟨by omega, by decide, Or.inr (by decide)⟩, by decide⟩
  · rename_i hnorm
    have hexp_pos : (@unpackExponent .binary64 b).toNat ≠ 0 := fun h =>
      hnorm (BitVec.eq_of_toNat_eq h)
    cases h
    rw [hbias, toNat_one_append]
    refine ⟨⟨by omega, ?_, Or.inl (by omega)⟩, ?_⟩ <;> simp only [Nat.cast_ofNat] <;> omega

theorem isCanonical_unpack (x : Float.Model) : IsCanonical x.unpack := by
  cases h : x.unpack with
  | finite s m e hm => exact (canonical_unpack h).1
  | _ => trivial

theorem unpackSign_packComponents (s : Sign) (e : BitVec 11) (m : BitVec 52) :
    Sign.ofBitVec (unpackSign (packComponents .binary64 s e m)) = s := by
  have hsign : @unpackSign .binary64 (packComponents .binary64 s e m) = s.toBitVec := by
    simp only [unpackSign, packComponents, BitVec.extractLsb, BitVec.cast_eq]
    rw [BitVec.extractLsb'_append_eq_of_le (by omega), BitVec.extractLsb'_append_eq_of_le (by omega)]
    cases s <;> rfl
  rw [hsign]
  cases s <;> rfl

/-- The value of a word whose exponent field is zero. -/
theorem unpackedValue?_subnormal (s : Sign) (m : BitVec 52) :
    unpackedValue? (unpack .binary64 (packComponents .binary64 s 0#11 m)) =
      some ((signed s (m.toNat * 2 ^ (-1074 : ℤ)) : ℝ) : EReal) := by
  have hbias : ((Format.binary64.exponentBias : ℕ) : ℤ) = 1023 := rfl
  simp only [unpack, unpackMantissa_packComponents, unpackExponent_packComponents,
    unpackSign_packComponents, hbias]
  rw [if_neg (by decide), if_pos trivial]
  split
  · rename_i hzero
    rw [hzero]
    simp [unpackedValue?]
  · rfl

/-- The value of a word whose exponent field is neither zero nor that of infinities. -/
theorem unpackedValue?_normal (s : Sign) {e : BitVec 11} (m : BitVec 52) (hlow : e ≠ 0#11)
    (hhigh : e ≠ -1#11) :
    unpackedValue? (unpack .binary64 (packComponents .binary64 s e m)) =
      some ((signed s ((2 ^ 52 + m.toNat : ℕ) * 2 ^ ((e.toNat : ℤ) - 1075)) : ℝ) : EReal) := by
  have hbias : ((Format.binary64.exponentBias : ℕ) : ℤ) = 1023 := rfl
  simp only [unpack, unpackMantissa_packComponents, unpackExponent_packComponents,
    unpackSign_packComponents, hbias]
  rw [if_neg hhigh, if_neg hlow, unpackedValue?_finite, toNat_one_append]
  norm_num

theorem Canonical.lt_limit {m : ℕ} {e : ℤ} (h : Canonical m e) (he : e ≤ 971) :
    (m : ℝ) * 2 ^ e < limit := by
  calc (m : ℝ) * 2 ^ e < (2 ^ 53 : ℕ) * 2 ^ e :=
        mul_lt_mul_of_pos_right (by exact_mod_cast h.lt) (by positivity)
    _ ≤ (2 ^ 53 : ℕ) * 2 ^ (971 : ℤ) :=
        mul_le_mul_of_nonneg_left (zpow_le_zpow_right₀ (by norm_num) he) (by positivity)
    _ = limit := by
        rw [limit, show (1024 : ℤ) = 53 + 971 by norm_num, zpow_add₀ (by norm_num)]
        norm_num

theorem Canonical.limit_le {m : ℕ} {e : ℤ} (h : Canonical m e) (he : 971 < e) :
    limit ≤ (m : ℝ) * 2 ^ e := by
  have hfull : 2 ^ 52 ≤ m := h.full.resolve_right (by omega)
  calc limit = (2 ^ 52 : ℕ) * 2 ^ (972 : ℤ) := by
        rw [limit, show (1024 : ℤ) = 52 + 972 by norm_num, zpow_add₀ (by norm_num)]
        norm_num
    _ ≤ m * 2 ^ e :=
        mul_le_mul (by exact_mod_cast hfull) (zpow_le_zpow_right₀ (by norm_num) he)
          (by positivity) (by positivity)

theorem bounded_signed_of_lt (s : Sign) {x : ℝ} (hx : 0 ≤ x) (h : x < limit) :
    bounded (signed s x) = (signed s x : ℝ) := by
  refine bounded_of_abs_lt ?_
  cases s with
  | positive => rwa [signed, abs_of_nonneg hx]
  | negative => rwa [signed, abs_neg, abs_of_nonneg hx]

theorem bounded_signed_of_le (s : Sign) {x : ℝ} (h : limit ≤ x) :
    unpackedValue? (.infinity s) = some (bounded (signed s x)) := by
  have hpos := limit_pos
  cases s with
  | positive => rw [signed, bounded, if_pos h, unpackedValue?]
  | negative =>
      rw [signed, bounded, if_neg (by linarith), if_pos (neg_le_neg h), unpackedValue?]

/-- Packing loses nothing of a canonical number that is not too large, and makes the others
infinite. -/
theorem unpackedValue?_pack {s : Sign} {m : ℕ} {e : ℤ} {hm : 0 < m} (h : Canonical m e) :
    unpackedValue? (Float.Model.pack (.finite s m e hm)).unpack =
      some (bounded (signed s (m * 2 ^ e))) := by
  have hle := h.le
  have hlog : m.log2 + 1 = 53 ↔ 2 ^ 52 ≤ m := by
    have hlow := Nat.le_log2 (k := 52) hm.ne'
    have hhigh := (Nat.log2_lt hm.ne').mpr h.lt
    omega
  have hfield : (e + ((Format.binary64.exponentBias : ℕ) : ℤ) + ((52 : ℕ) : ℤ)).toNat =
      (e + 1075).toNat := by
    show (e + 1023 + 52).toNat = _
    omega
  show unpackedValue? (unpack .binary64 (pack .binary64 (.finite s m e hm))) = _
  simp only [pack, hfield]
  split
  · rename_i hlarge
    have he : 971 < e := by
      change 2 ^ 11 ≤ (e + 1075).toNat + 1 at hlarge
      omega
    rw [← bounded_signed_of_le s (h.limit_le he)]
    cases s <;> rfl
  rename_i hsmall
  have he : e ≤ 971 := by
    change ¬2 ^ 11 ≤ (e + 1075).toNat + 1 at hsmall
    omega
  rw [bounded_signed_of_lt s (by positivity) (h.lt_limit he)]
  have hexp : (BitVec.ofNat 11 (e + 1075).toNat).toNat = (e + 1075).toNat := by
    rw [BitVec.toNat_ofNat]
    omega
  split
  · rename_i hnorm
    have hfull := hlog.mp hnorm
    have hmant : 2 ^ 52 + (BitVec.ofNat 52 m).toNat = m := by
      have := h.lt
      rw [BitVec.toNat_ofNat]
      omega
    rw [unpackedValue?_normal, hmant, hexp, Int.toNat_of_nonneg (by omega), add_sub_cancel_right]
    · intro hzero
      have := congrArg BitVec.toNat hzero
      rw [hexp] at this
      change (e + 1075).toNat = 0 at this
      omega
    · intro hones
      have := congrArg BitVec.toNat hones
      rw [hexp] at this
      change (e + 1075).toNat = 2047 at this
      omega
  · rename_i hsub
    have hlow : m < 2 ^ 52 := not_le.mp fun hfull => hsub (hlog.mpr hfull)
    have hleast : e = -1074 := h.full.resolve_left (by omega)
    have hmant : (BitVec.ofNat 52 m).toNat = m := by
      rw [BitVec.toNat_ofNat]
      omega
    rw [unpackedValue?_subnormal, hmant, hleast]

/-! ### Comparing floating numbers -/

theorem unpackedValue?_eq_none {a : Float.Model.UnpackedFloat} (h : unpackedValue? a = none) :
    a = .notANumber := by
  cases a with
  | notANumber => rfl
  | infinity s => cases s <;> cases h
  | zero s => cases h
  | finite s m e hm => cases h

variable {x y z : Float} {v w : EReal}

theorem compare_of_value? (hv : value? x = some v) (hw : value? y = some w) :
    x.toModel.unpack.compare y.toModel.unpack = some (compare v w) :=
  compare_unpacked (isCanonical_unpack _) (isCanonical_unpack _) hv hw

/-- What is no number compares with nothing. -/
theorem compare_of_value?_eq_none (h : value? x = none ∨ value? y = none) :
    x.toModel.unpack.compare y.toModel.unpack = none := by
  rcases h with h | h
  · rw [unpackedValue?_eq_none h]
    cases y.toModel.unpack <;> rfl
  · rw [unpackedValue?_eq_none h]
    cases x.toModel.unpack <;> rfl

theorem le_iff_compare :
    x ≤ y ↔ (x.toModel.unpack.compare y.toModel.unpack).any Ordering.isLE = true := by
  show decide (_ = true) = true ↔ _
  rw [decide_eq_true_iff]
  rfl

theorem lt_iff_compare :
    x < y ↔ x.toModel.unpack.compare y.toModel.unpack = some .lt := by
  show decide (_ = true) = true ↔ _
  rw [decide_eq_true_iff]
  exact beq_iff_eq

theorem le_iff_of_value? (hv : value? x = some v) (hw : value? y = some w) : x ≤ y ↔ v ≤ w := by
  rw [le_iff_compare, compare_of_value? hv hw, Option.any_some, Ordering.isLE_iff_ne_gt]
  exact compare_le_iff_le

theorem lt_iff_of_value? (hv : value? x = some v) (hw : value? y = some w) : x < y ↔ v < w := by
  rw [lt_iff_compare, compare_of_value? hv hw, Option.some.injEq, compare_lt_iff_lt]

/-- **Only numbers are ordered,** and they are ordered like their values. -/
theorem le_iff : x ≤ y ↔ ∃ v w, value? x = some v ∧ value? y = some w ∧ v ≤ w := by
  constructor
  · intro h
    rcases hv : value? x with _ | v
    · rw [le_iff_compare, compare_of_value?_eq_none (Or.inl hv)] at h
      cases h
    rcases hw : value? y with _ | w
    · rw [le_iff_compare, compare_of_value?_eq_none (Or.inr hw)] at h
      cases h
    exact ⟨v, w, rfl, rfl, (le_iff_of_value? hv hw).mp h⟩
  · rintro ⟨v, w, hv, hw, h⟩
    exact (le_iff_of_value? hv hw).mpr h

theorem le_trans (hxy : x ≤ y) (hyz : y ≤ z) : x ≤ z := by
  obtain ⟨u, v, hu, hv, huv⟩ := le_iff.mp hxy
  obtain ⟨v', w, hv', hw, hvw⟩ := le_iff.mp hyz
  cases hv.symm.trans hv'
  exact le_iff.mpr ⟨u, w, hu, hw, huv.trans hvw⟩

theorem le_self_of_le (h : x ≤ y) : x ≤ x ∧ y ≤ y := by
  obtain ⟨v, w, hv, hw, -⟩ := le_iff.mp h
  exact ⟨(le_iff_of_value? hv hv).mpr le_rfl, (le_iff_of_value? hw hw).mpr le_rfl⟩

theorem not_lt_of_le (h : x ≤ y) : ¬y < x := by
  obtain ⟨v, w, hv, hw, hvw⟩ := le_iff.mp h
  rw [lt_iff_of_value? hw hv]
  exact not_lt.mpr hvw

/-- Of two numbers, one is not above the other. -/
theorem le_of_not_lt (hx : x ≤ x) (hy : y ≤ y) (h : ¬y < x) : x ≤ y := by
  obtain ⟨v, -, hv, -, -⟩ := le_iff.mp hx
  obtain ⟨w, -, hw, -, -⟩ := le_iff.mp hy
  rw [lt_iff_of_value? hw hv] at h
  exact (le_iff_of_value? hv hw).mpr (not_lt.mp h)

/-! ### The smaller of two numbers

The first operand may be no number; then the second one is taken. -/

theorem minimum_le_right (x : Float) {c : Float} (hc : c ≤ c) : min x c ≤ c := by
  show (if x ≤ c then x else c) ≤ c
  by_cases hx : x ≤ c
  · rwa [if_pos hx]
  · rwa [if_neg hx]

theorem minimum_le_minimum {c : Float} (h : x ≤ y) (hc : c ≤ c) : min x c ≤ min y c := by
  show (if x ≤ c then x else c) ≤ if y ≤ c then y else c
  by_cases hy : y ≤ c
  · rw [if_pos hy, if_pos (le_trans h hy)]
    exact h
  · rw [if_neg hy]
    exact minimum_le_right x hc

end StreetLinkage.Binary64
