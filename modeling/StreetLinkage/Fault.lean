/-!
# Faults

Coordinates of pixels are 32-bit words and points are addressed by number, so a few operations can
leave the range in which they mean anything. A `Fault` names what went wrong; it is a mistake of the
caller, unlike the errors that reject a user's input. The checked operations on words fail exactly
when the result over the integers does not fit (`Word.add_eq_ok_iff`, `Word.sub_eq_ok_iff`).
-/

namespace StreetLinkage

/-- A misuse that no answer can be given for. -/
inductive Fault where
  /-- A list of `length` entries was read at `index`. -/
  | indexOutOfBounds (length index : Nat)
  /-- A number was divided by zero. -/
  | divideByZero
  /-- The remainder of a division by zero was asked for. -/
  | remainderByZero
  /-- A sum does not fit its word. -/
  | addOverflow
  /-- A difference is negative. -/
  | subOverflow
  deriving DecidableEq, Repr

namespace Fault

/-- The report of a fault. -/
def message : Fault → String
  | indexOutOfBounds length index =>
      s!"index out of bounds: the len is {length} but the index is {index}"
  | divideByZero => "attempt to divide by zero"
  | remainderByZero => "attempt to calculate the remainder with a divisor of zero"
  | addOverflow => "attempt to add with overflow"
  | subOverflow => "attempt to subtract with overflow"

end Fault

namespace Word

/-- The sum of two words, if it is a word. -/
def add (a b : UInt32) : Except Fault UInt32 :=
  if a.toNat + b.toNat < UInt32.size then .ok (a + b) else .error .addOverflow

/-- The difference of two words, if it is a word. -/
def sub (a b : UInt32) : Except Fault UInt32 :=
  if b ≤ a then .ok (a - b) else .error .subOverflow

theorem add_eq_ok_iff {a b c : UInt32} : add a b = .ok c ↔ c.toNat = a.toNat + b.toNat := by
  have hc := c.toNat_lt
  unfold add
  constructor
  · intro h
    split at h
    · rename_i hlt
      cases h
      rw [UInt32.toNat_add]
      exact Nat.mod_eq_of_lt hlt
    · cases h
  · intro h
    have hlt : a.toNat + b.toNat < UInt32.size := by rw [← h]; exact hc
    rw [if_pos hlt]
    congr 1
    apply UInt32.toNat_inj.mp
    rw [UInt32.toNat_add, h]
    exact Nat.mod_eq_of_lt hlt

theorem sub_eq_ok_iff {a b c : UInt32} : sub a b = .ok c ↔ c.toNat + b.toNat = a.toNat := by
  unfold sub
  constructor
  · intro h
    split at h
    · rename_i hle
      cases h
      rw [UInt32.toNat_sub_of_le _ _ hle]
      have := UInt32.le_iff_toNat_le.mp hle
      omega
    · cases h
  · intro h
    have hle : b ≤ a := UInt32.le_iff_toNat_le.mpr (by omega)
    rw [if_pos hle]
    congr 1
    apply UInt32.toNat_inj.mp
    rw [UInt32.toNat_sub_of_le _ _ hle]
    omega

end Word

end StreetLinkage
