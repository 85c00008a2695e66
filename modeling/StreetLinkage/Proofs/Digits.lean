import Mathlib.Algebra.Order.Ring.Nat
import Mathlib.Data.List.Basic
import Mathlib.Data.Nat.Digits.Defs
import Mathlib.Tactic.IntervalCases

/-!
# Decimal digits in texts

The digits of a whole number as they are written, and runs of digits in front of other characters.
-/

namespace StreetLinkage.Decimal

/-! ### Whole numbers -/

/-- Digits, at least one. -/
structure SomeDigits (digits : List Char) : Prop where
  isDigit : ∀ c ∈ digits, c.isDigit = true
  ne_nil : digits ≠ []

/-- The digits of a whole number: the first is no zero, unless it is the only one. -/
structure IsWhole (digits : List Char) : Prop extends SomeDigits digits where
  canonical : digits.head? = some '0' → digits = ['0']

theorem head?_toDigits {n : ℕ} (h : 0 < n) : (Nat.toDigits 10 n).head? ≠ some '0' := by
  induction n using Nat.strongRecOn with
  | ind n ih =>
      rw [Nat.toDigits_eq_if (by norm_num)]
      split_ifs with hlt
      · interval_cases n <;> decide
      · rw [List.head?_append_of_ne_nil _ Nat.toDigits_ne_nil]
        exact ih (n / 10) (by omega) (by omega)

theorem isWhole_toDigits (n : ℕ) : IsWhole (Nat.toDigits 10 n) where
  isDigit _ h := Nat.isDigit_of_mem_toDigits (by norm_num) (by norm_num) h
  ne_nil := Nat.toDigits_ne_nil
  canonical h := by
    rcases Nat.eq_zero_or_pos n with rfl | hpos
    · rfl
    · exact absurd h (head?_toDigits hpos)

/-! ### Runs of digits -/

theorem SomeDigits.append_ne_cons {digits rest cs : List Char} {c : Char} (h : SomeDigits digits)
    (hc : c.isDigit = false) : digits ++ rest ≠ c :: cs := by
  cases digits with
  | nil => exact absurd rfl h.ne_nil
  | cons d ds =>
      rintro ⟨⟩
      simp [h.isDigit c List.mem_cons_self] at hc

/-- The text does not go on with a digit. -/
def NoDigitAhead (rest : List Char) : Prop :=
  ∀ c ∈ rest.head?, c.isDigit = false

theorem span_digits {digits rest : List Char} (h : ∀ c ∈ digits, c.isDigit = true)
    (hrest : NoDigitAhead rest) :
    (digits ++ rest).takeWhile Char.isDigit = digits ∧
      (digits ++ rest).dropWhile Char.isDigit = rest := by
  have hhead : rest.takeWhile Char.isDigit = [] ∧ rest.dropWhile Char.isDigit = rest := by
    cases rest with
    | nil => simp
    | cons c rest => simp [hrest c rfl]
  rw [List.takeWhile_append_of_pos h, List.dropWhile_append_of_pos h, hhead.1, hhead.2]
  simp

end StreetLinkage.Decimal
