import StreetLinkage.Decimal.Places
import StreetLinkage.Proofs.Binary64.Reading
import StreetLinkage.Proofs.Digits

/-!
# Decimals with a set number of places

What `withPlaces` writes, and what such a text stands for.

* `Writes` says that a text is the exact decimal of a rational number with a set number of places: the
  sign stands in front of negative numbers only, no zero is in front that is not needed, and each place
  behind the point is there.
* `readDecimal?` reads decimals, and gives back the number of every text of this form
  (`Writes.readDecimal?_append`). So one text is written for one number at most.
* A floating number less than half a unit of the last place away from a whole number of units is written
  as these units (`withPlaces_of_near`): its own value does not show.
-/

namespace StreetLinkage.Decimal

open Binary64

/-! ### Decimals -/

/-- The number that digits before and behind a point stand for. -/
def digitsValue (whole fraction : List Char) : ℚ :=
  Nat.ofDigitChars 10 whole 0 + Nat.ofDigitChars 10 fraction 0 / 10 ^ fraction.length

/-- The text is the exact decimal of the value with `places` digits behind the point. -/
def Writes (places : ℕ) (value : ℚ) (text : List Char) : Prop :=
  ∃ whole fraction : List Char,
    IsWhole whole ∧ (∀ c ∈ fraction, c.isDigit = true) ∧ fraction.length = places ∧
    text = (if value < 0 then ['-'] else []) ++ whole ++ '.' :: fraction ∧
    |value| = digitsValue whole fraction

/-! ### Texts of whole numbers of units -/

theorem toList_padded (width n : ℕ) :
    (padded width n).toList =
      List.replicate (width - (Nat.toDigits 10 n).length) '0' ++ Nat.toDigits 10 n := by
  simp [padded, zeros, digitCount]

theorem length_padded {width n : ℕ} (hwidth : 0 < width) (h : n < 10 ^ width) :
    (padded width n).toList.length = width := by
  have hlength := (Nat.length_toDigits_le_iff (by norm_num) hwidth).mpr h
  rw [toList_padded, List.length_append, List.length_replicate]
  omega

theorem isDigit_of_mem_padded {width n : ℕ} {c : Char} (h : c ∈ (padded width n).toList) :
    c.isDigit = true := by
  rw [toList_padded, List.mem_append, List.mem_replicate] at h
  rcases h with ⟨-, rfl⟩ | h
  · rfl
  · exact Nat.isDigit_of_mem_toDigits (by norm_num) (by norm_num) h

theorem ofDigitChars_padded (width n : ℕ) : Nat.ofDigitChars 10 (padded width n).toList 0 = n := by
  rw [toList_padded, Nat.ofDigitChars_append, Nat.ofDigitChars_replicate_zero, Nat.mul_zero,
    Nat.ofDigitChars_ten_toDigits]

theorem toList_pointed {places : ℕ} (h : 0 < places) (n : ℕ) :
    (pointed places n).toList =
      Nat.toDigits 10 (n / 10 ^ places) ++ '.' :: (padded places (n % 10 ^ places)).toList := by
  simp [pointed, h.ne']

/-- Units of the last place, with the sign of negative numbers. -/
def signedUnits (places : ℕ) (units : ℤ) : String :=
  (if units < 0 then "-" else "") ++ pointed places units.natAbs

/-- A whole number of units is written exactly. -/
theorem writes_signedUnits {places : ℕ} (h : 0 < places) (units : ℤ) :
    Writes places (units / 10 ^ places) (signedUnits places units).toList := by
  have hpos : (0 : ℚ) < 10 ^ places := by positivity
  have hrest : units.natAbs % 10 ^ places < 10 ^ places := Nat.mod_lt _ (by positivity)
  have hsign : (units : ℚ) / 10 ^ places < 0 ↔ units < 0 := by
    rw [div_lt_iff₀ hpos, zero_mul]
    exact_mod_cast Iff.rfl
  refine ⟨_, _, isWhole_toDigits (units.natAbs / 10 ^ places),
    fun _ => isDigit_of_mem_padded,
    length_padded h hrest, ?_, ?_⟩
  · rw [signedUnits, String.toList_append, toList_pointed h, List.append_assoc]
    congr 1
    by_cases hneg : units < 0 <;> simp [hneg, hsign]
  · rw [digitsValue, length_padded h hrest, ofDigitChars_padded, Nat.ofDigitChars_ten_toDigits, abs_div,
      abs_of_pos hpos, ← Int.cast_abs, ← Nat.cast_natAbs]
    have hsum : ((units.natAbs / 10 ^ places : ℕ) : ℚ) * 10 ^ places +
        (units.natAbs % 10 ^ places : ℕ) = units.natAbs := by
      exact_mod_cast Nat.div_add_mod' units.natAbs (10 ^ places)
    field_simp
    linarith

/-! ### Reading decimals -/

/-- A decimal without a sign, and what follows it. -/
def readMagnitude? (cs : List Char) : Option (ℚ × List Char) :=
  match cs.takeWhile Char.isDigit, cs.dropWhile Char.isDigit with
  | [], _ => none
  | whole, '.' :: rest =>
      some (digitsValue whole (rest.takeWhile Char.isDigit), rest.dropWhile Char.isDigit)
  | whole, rest => some (digitsValue whole [], rest)

/-- A decimal, and what follows it. -/
def readDecimal? : List Char → Option (ℚ × List Char)
  | '-' :: cs => (readMagnitude? cs).map fun (value, rest) => (-value, rest)
  | cs => readMagnitude? cs

theorem readMagnitude?_append {whole fraction rest : List Char} (hwhole : IsWhole whole)
    (hfraction : ∀ c ∈ fraction, c.isDigit = true) (hrest : NoDigitAhead rest) :
    readMagnitude? (whole ++ '.' :: (fraction ++ rest)) = some (digitsValue whole fraction, rest) := by
  have hpoint : NoDigitAhead ('.' :: (fraction ++ rest)) := by simp [NoDigitAhead]
  obtain ⟨htake, hdrop⟩ := span_digits hwhole.isDigit hpoint
  obtain ⟨htake', hdrop'⟩ := span_digits hfraction hrest
  unfold readMagnitude?
  rw [htake, hdrop]
  cases whole with
  | nil => exact absurd rfl hwhole.ne_nil
  | cons d ds => simp only [htake', hdrop']

/-- **An exact decimal is read as its value,** whatever follows but another digit. -/
theorem Writes.readDecimal?_append {places : ℕ} {value : ℚ} {text rest : List Char}
    (h : Writes places value text) (hrest : NoDigitAhead rest) :
    readDecimal? (text ++ rest) = some (value, rest) := by
  obtain ⟨whole, fraction, hwhole, hfraction, rfl, rfl, hvalue⟩ := h
  have hread := readMagnitude?_append hwhole hfraction hrest
  rw [← hvalue] at hread
  by_cases hneg : value < 0
  · rw [if_pos hneg]
    simp only [List.append_assoc, List.cons_append, List.nil_append, readDecimal?, hread,
      Option.map_some, abs_of_neg hneg, neg_neg]
  · rw [if_neg hneg]
    rw [abs_of_nonneg (not_lt.mp hneg)] at hread
    -- The first character is a digit, hence no sign.
    cases whole with
    | nil => exact absurd rfl hwhole.ne_nil
    | cons d ds =>
        have hd : d ≠ '-' := by
          rintro rfl
          exact absurd (hwhole.isDigit '-' List.mem_cons_self) (by decide)
        simp only [List.append_assoc, List.cons_append, List.nil_append] at hread ⊢
        rw [readDecimal?, hread]
        simpa using hd

/-- Units of the last place are read as the number that they are. -/
theorem readDecimal?_signedUnits {places : ℕ} (h : 0 < places) (units : ℤ) {rest : List Char}
    (hrest : NoDigitAhead rest) :
    readDecimal? ((signedUnits places units).toList ++ rest) =
      some ((units : ℚ) / 10 ^ places, rest) :=
  (writes_signedUnits h units).readDecimal?_append hrest

/-! ### Rounding to the last place -/

theorem Ratio.roundEven_eq {r : Ratio} (h : 0 < r.denominator) :
    r.roundEven = nearestWhole (r.numerator / r.denominator) := by
  unfold Ratio.roundEven
  by_cases htie : 2 * (r.numerator % r.denominator) = r.denominator
  · rw [nearestWhole_div_of_tie h htie, if_neg (by omega), if_neg (by omega)]
  · rcases nearestWhole_div h htie with ⟨hlt, hwhole⟩ | ⟨hlt, hwhole⟩
    · rw [if_pos hlt, hwhole]
    · rw [if_neg (by omega), if_pos hlt, hwhole]

theorem Binary.scaled_eq (v : Binary) (places : ℕ) :
    ((v.scaled places).numerator : ℝ) / (v.scaled places).denominator =
      v.mantissa * 2 ^ v.exponent * 10 ^ places := by
  have hsplit : (2 : ℝ) ^ v.exponent = 2 ^ v.exponent.toNat / 2 ^ (-v.exponent).toNat := by
    rw [← zpow_natCast, ← zpow_natCast, ← zpow_sub₀ (by norm_num)]
    congr 1
    omega
  rw [hsplit]
  simp only [Binary.scaled, Binary.toRatio, Nat.pow_eq]
  push_cast
  field_simp

/-- The units that are written are the exact value, rounded once. -/
theorem Binary.roundEven_scaled (v : Binary) (places : ℕ) :
    (v.scaled places).roundEven = nearestWhole (v.mantissa * 2 ^ v.exponent * 10 ^ places) := by
  have hpos : 0 < (v.scaled places).denominator := v.denominator_pos
  rw [Ratio.roundEven_eq hpos, v.scaled_eq places]

/-- A value less than half a unit away from a whole number of units is written as these units. -/
theorem withPlaces_of_near {x : Float} {negative : Bool} {v : Binary} {places n : ℕ}
    (hreading : Reading.ofFloat x = .finite negative v)
    (hnear : |(v.mantissa * 2 ^ v.exponent * 10 ^ places : ℝ) - n| < 1 / 2) :
    withPlaces places x = (if negative then "-" else "") ++ pointed places n := by
  have hround : (v.scaled places).roundEven = n := by
    rw [v.roundEven_scaled, nearestWhole_of_abs_sub_lt (by positivity) hnear]
  rw [withPlaces, hreading, ← hround]

end StreetLinkage.Decimal
