import StreetLinkage.Decimal.Binary
import StreetLinkage.Proofs.Binary64.Value

/-!
# Readings have the values of floating numbers

Texts of floating numbers are made from a reading of their bits in whole numbers, and what is known of
floating operations is said of values. Both take the word apart into the same three fields
(`toNat_unpackMantissa`, `toNat_unpackExponent`, `ofBitVec_unpackSign`), so they tell of one number
(`value?_ofFloat`).
-/

namespace StreetLinkage.Decimal

open Binary64
open Float.Model (Format)
open Float.Model.UnpackedFloat

/-- The sign that a bit stands for. -/
def signOf (negative : Bool) : Sign :=
  if negative then .negative else .positive

/-- The value of a reading, if it is a number. -/
noncomputable def Reading.value? : Reading → Option EReal
  | .nan => none
  | .infinite negative => unpackedValue? (.infinity (signOf negative))
  | .finite negative v => some (signed (signOf negative) (v.mantissa * place v.exponent) : ℝ)

/-! ### The fields of a word -/

section Fields

variable (b : BitVec 64)

theorem toNat_unpackMantissa :
    (@unpackMantissa .binary64 b).toNat = b.toNat % Nat.pow 2 fractionBits := by
  simp [unpackMantissa, fractionBits]

theorem toNat_unpackExponent :
    (@unpackExponent .binary64 b).toNat = b.toNat / Nat.pow 2 fractionBits % Nat.pow 2 11 := by
  simp [unpackExponent, fractionBits, Nat.shiftRight_eq_div_pow]

theorem ofBitVec_unpackSign :
    Sign.ofBitVec (@unpackSign .binary64 b) = signOf (b.toNat / Nat.pow 2 63 % 2 == 1) := by
  have hbit : (@unpackSign .binary64 b).toNat = b.toNat / Nat.pow 2 63 % 2 := by
    simp [unpackSign, Nat.shiftRight_eq_div_pow]
  have hsign : ∀ s : BitVec 1, Sign.ofBitVec s = signOf (s.toNat == 1) := by
    intro s
    rcases BitVec.eq_zero_or_eq_one s with rfl | rfl <;> rfl
  rw [hsign, hbit]

end Fields

/-! ### The value of a reading -/

/-- **A reading has the value of the floating number** that it is read off. -/
theorem value?_ofFloat (x : Float) : (Reading.ofFloat x).value? = Binary64.value? x := by
  have hbits : x.toBits.toBitVec.toNat = x.toBits.toNat := rfl
  have hbias : ((Format.binary64.exponentBias : ℕ) : ℤ) = 1023 := rfl
  have hones : (-1#11 : BitVec 11).toNat = 2047 := rfl
  show _ = unpackedValue? (unpack .binary64 x.toBits.toBitVec)
  -- Both sides now test the same fields, in the same order.
  simp only [unpack, Reading.ofFloat, Reading.ofBits, ofBitVec_unpackSign, toNat_one_append,
    ← BitVec.toNat_inj, toNat_unpackExponent, toNat_unpackMantissa, hbits, hbias, hones,
    BitVec.toNat_zero]
  generalize (x.toBits.toNat / Nat.pow 2 63 % 2 == 1) = negative
  generalize x.toBits.toNat / Nat.pow 2 fractionBits % Nat.pow 2 11 = field
  split_ifs with hfull hfraction hleast hzero
  · rfl
  · rfl
  · rw [hzero]
    simp [Reading.value?, unpackedValue?]
  · rw [hleast]
    rfl
  · have hexponent : leastExponent + (field : ℤ) - 1 = field - (1023 + (52 : ℕ)) := by
      unfold leastExponent
      push_cast
      ring
    rw [hexponent]
    rfl

/-- A number that is not infinite is read as a mantissa and an exponent. -/
theorem exists_reading {x : Float} {a : ℝ} (h : Binary64.value? x = some (a : EReal)) :
    ∃ negative v, Reading.ofFloat x = .finite negative v ∧
      a = signed (signOf negative) (v.mantissa * 2 ^ v.exponent) := by
  rw [← value?_ofFloat] at h
  cases hreading : Reading.ofFloat x with
  | nan =>
      rw [hreading] at h
      cases h
  | infinite negative =>
      rw [hreading] at h
      cases negative
      · exact absurd (Option.some.inj h).symm (EReal.coe_ne_top a)
      · exact absurd (Option.some.inj h).symm (EReal.coe_ne_bot a)
  | finite negative v =>
      rw [hreading] at h
      exact ⟨negative, v, rfl, (EReal.coe_injective (Option.some.inj h)).symm⟩

end StreetLinkage.Decimal
