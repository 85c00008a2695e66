import StreetLinkage.Proofs.DecimalPlaces
import StreetLinkage.Proofs.FixedRoundTrip

/-!
# Coordinates are written exactly

The text of a coordinate is made from floating degrees, which are rounded quotients: `0.0000021` degrees
are no floating number. With seven places this does not show. A quotient is at most 215, so it is wrong by
`2 ^ -46` at most, which is far less than half a unit of the seventh place; and its sign is that of the
units, as the least of them is still larger than this (`withPlaces_fixedToFloating`).

So the text holds the exact decimals of the units, and the coordinate can be read off its text
(`ofText?_display`).
-/

namespace StreetLinkage

open Binary64 Decimal

/-! ### The degrees of a magnitude -/

section Magnitudes

variable {m : ℕ}

theorem abs_degrees_sub_le (hm : m ≤ 2 ^ 31) :
    |nearestMagnitude (m / 10 ^ 7) - m / 10 ^ 7| ≤ 2 ^ (-46 : ℤ) := by
  have hbound : (m : ℝ) / 10 ^ 7 < 2 ^ (8 : ℤ) := by
    have hm' : (m : ℝ) ≤ 2 ^ 31 := by exact_mod_cast hm
    rw [div_lt_iff₀ (by positivity)]
    exact hm'.trans_lt (by norm_num)
  exact abs_nearestMagnitude_sub_le (by norm_num) (by positivity) hbound

/-- Back in units, the error is less than a half. -/
theorem abs_degrees_mul_sub_lt (hm : m ≤ 2 ^ 31) :
    |nearestMagnitude (m / 10 ^ 7) * 10 ^ 7 - m| < 1 / 2 := by
  have hscale : nearestMagnitude (m / 10 ^ 7) * 10 ^ 7 - m =
      (nearestMagnitude (m / 10 ^ 7) - m / 10 ^ 7) * 10 ^ 7 := by
    field_simp
  calc |nearestMagnitude (m / 10 ^ 7) * 10 ^ 7 - m|
      = |nearestMagnitude (m / 10 ^ 7) - m / 10 ^ 7| * 10 ^ 7 := by
        rw [hscale, abs_mul, abs_of_pos (by positivity : (0 : ℝ) < 10 ^ 7)]
    _ ≤ 2 ^ (-46 : ℤ) * 10 ^ 7 :=
        mul_le_mul_of_nonneg_right (abs_degrees_sub_le hm) (by positivity)
    _ < 1 / 2 := by norm_num

/-- One unit and more do not vanish. -/
theorem degrees_pos (hpos : 0 < m) (hm : m ≤ 2 ^ 31) : 0 < nearestMagnitude (m / 10 ^ 7) := by
  have hunits : (1 : ℝ) ≤ m := by exact_mod_cast hpos
  have hnear := (abs_lt.mp (abs_degrees_mul_sub_lt hm)).1
  have hscaled : 0 < nearestMagnitude (m / 10 ^ 7) * 10 ^ 7 := by linarith
  exact pos_of_mul_pos_left hscaled (by positivity)

end Magnitudes

/-! ### The text of a number of units -/

theorem signed_signOf_pos {negative : Bool} {x : ℝ} (hx : 0 ≤ x)
    (h : 0 < signed (signOf negative) x) : negative = false := by
  cases negative with
  | false => rfl
  | true =>
      simp only [signOf, if_pos, signed] at h
      linarith

theorem signed_signOf_neg {negative : Bool} {x : ℝ} (hx : 0 ≤ x)
    (h : signed (signOf negative) x < 0) : negative = true := by
  cases negative with
  | true => rfl
  | false =>
      simp only [signOf, signed] at h
      exact absurd h hx.not_gt

/-- The degrees are read with the sign of the units and as the rounded quotient of their magnitude. -/
theorem exists_reading_fixedToFloating (n : Int32) :
    ∃ v, Reading.ofFloat (fixedToFloating n) = .finite (n.toInt < 0) v ∧
      (v.mantissa * 2 ^ v.exponent : ℝ) = nearestMagnitude (n.toInt.natAbs / 10 ^ 7) := by
  have hbound := natAbs_toInt_le n
  obtain ⟨negative, v, hreading, hvalue⟩ := exists_reading (value?_fixedToFloating n)
  have hmagnitude : (0 : ℝ) ≤ v.mantissa * 2 ^ v.exponent := by positivity
  rcases cast_toInt_cases n with ⟨hneg, hcast⟩ | ⟨hneg, hcast⟩
  · have hlt : n.toInt < 0 := Int32.lt_iff_toInt_lt.mp hneg
    have hpos := degrees_pos (Int.natAbs_pos.mpr hlt.ne) hbound
    rw [hcast, neg_div, nearest_neg, nearest_of_nonneg (by positivity)] at hvalue
    obtain rfl := signed_signOf_neg hmagnitude (by linarith)
    refine ⟨v, by simp [hreading, hlt], ?_⟩
    simpa [signOf, signed] using hvalue.symm
  · have hge : ¬n.toInt < 0 := fun h => hneg (Int32.lt_iff_toInt_lt.mpr h)
    rcases Nat.eq_zero_or_pos n.toInt.natAbs with hzero | hpos
    · -- Zero is the one number whose sign its value does not tell.
      obtain rfl : n = 0 := Int32.toInt_inj.mp (Int.natAbs_eq_zero.mp hzero)
      exact ⟨⟨0, -1074⟩, by decide, by simp⟩
    · have hpos' := degrees_pos hpos hbound
      rw [hcast, nearest_of_nonneg (by positivity)] at hvalue
      obtain rfl := signed_signOf_pos hmagnitude (by linarith)
      refine ⟨v, by simp [hreading, hge], ?_⟩
      simpa [signOf, signed] using hvalue.symm

/-- **With seven places the degrees are written like the units,** although they are rounded. -/
theorem withPlaces_fixedToFloating (n : Int32) :
    withPlaces 7 (fixedToFloating n) = signedUnits 7 n.toInt := by
  obtain ⟨v, hreading, hvalue⟩ := exists_reading_fixedToFloating n
  have hnear := abs_degrees_mul_sub_lt (natAbs_toInt_le n)
  rw [← hvalue] at hnear
  rw [withPlaces_of_near hreading hnear, signedUnits]
  simp

/-! ### Reading a coordinate -/

/-- The fixed-point number of a value in degrees, if the value is one. -/
def fixedOfDegrees? (value : ℚ) : Option Int32 :=
  let n := Int32.ofInt (value * 10 ^ 7).num
  if (n.toInt : ℚ) / 10 ^ 7 = value then some n else none

theorem fixedOfDegrees?_div (n : Int32) : fixedOfDegrees? (n.toInt / 10 ^ 7) = some n := by
  have hnum : ((n.toInt : ℚ) / 10 ^ 7 * 10 ^ 7).num = n.toInt := by
    rw [div_mul_cancel₀ _ (by norm_num)]
    exact Rat.num_intCast n.toInt
  simp only [fixedOfDegrees?, hnum, Int32.ofInt_toInt, if_pos]

namespace FixedCoord

/-- The coordinate of a text: latitude and longitude in degrees, as decimals in parentheses. -/
def ofText? (text : String) : Option FixedCoord :=
  match text.toList with
  | '(' :: cs => do
      let (lat, cs) ← readDecimal? cs
      match cs with
      | ',' :: ' ' :: cs =>
          let (lon, cs) ← readDecimal? cs
          if cs = [')'] then return ⟨← fixedOfDegrees? lon, ← fixedOfDegrees? lat⟩ else none
      | _ => none
  | _ => none

theorem toList_display (c : FixedCoord) :
    c.display.toList = '(' :: ((signedUnits 7 c.lat.toInt).toList ++
      ',' :: ' ' :: ((signedUnits 7 c.lon.toInt).toList ++ [')'])) := by
  have htext : c.display =
      "(" ++ signedUnits 7 c.lat.toInt ++ ", " ++ signedUnits 7 c.lon.toInt ++ ")" := by
    simp only [display, withPlaces_fixedToFloating]
    rfl
  simp [htext]

/-- A coordinate can be read off its text. -/
theorem ofText?_display (c : FixedCoord) : ofText? c.display = some c := by
  have hlat (rest : List Char) :
      readDecimal? ((signedUnits 7 c.lat.toInt).toList ++ ',' :: rest) = some (_, ',' :: rest) :=
    readDecimal?_signedUnits (by norm_num) _ (by simp [NoDigitAhead])
  have hlon : readDecimal? ((signedUnits 7 c.lon.toInt).toList ++ [')']) = some (_, [')']) :=
    readDecimal?_signedUnits (by norm_num) _ (by simp [NoDigitAhead])
  rw [ofText?, toList_display]
  simp [hlat, hlon, fixedOfDegrees?_div]

/-- **The text of a coordinate is exact.** It holds latitude and longitude as the exact decimals of their
fixed-point degrees with seven places; the coordinate can be read off it; and no other coordinate has the
same text. -/
theorem display_exact (c : FixedCoord) :
    (∃ lat lon : List Char, c.display.toList = '(' :: (lat ++ ',' :: ' ' :: (lon ++ [')'])) ∧
      Writes 7 (c.lat.toInt / 10 ^ 7) lat ∧ Writes 7 (c.lon.toInt / 10 ^ 7) lon) ∧
    ofText? c.display = some c ∧
    ∀ d : FixedCoord, d.display = c.display ↔ d = c := by
  refine ⟨⟨_, _, toList_display c, writes_signedUnits (by norm_num) _,
    writes_signedUnits (by norm_num) _⟩, ofText?_display c, fun d => ⟨fun h => ?_, fun h => h ▸ rfl⟩⟩
  have hread := ofText?_display d
  rw [h, ofText?_display c] at hread
  exact (Option.some.inj hread).symm

/-- The least unit below zero, and the least of all numbers. -/
example : display ⟨-2147483648, -1⟩ = "(-0.0000001, -214.7483648)" := by decide +kernel

end FixedCoord

end StreetLinkage
