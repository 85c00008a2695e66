import StreetLinkage.Decimal.Layout

/-!
# Decimals with a set number of places

The exact value of a floating number, rounded to a number of places; a tie goes to the even
neighbour. The sign is that of the number itself.
-/

namespace StreetLinkage.Decimal

/-- The whole number nearest to a quotient, and the even one of two. -/
def Ratio.roundEven (r : Ratio) : Nat :=
  let quotient := r.numerator / r.denominator
  let rest := 2 * (r.numerator % r.denominator)
  if rest < r.denominator then quotient
  else if r.denominator < rest then quotient + 1
  else quotient + quotient % 2

/-- The value in units of the last of `places` decimal places. -/
def Binary.scaled (v : Binary) (places : Nat) : Ratio :=
  { v.toRatio with numerator := v.toRatio.numerator * Nat.pow 10 places }

/-- A floating number with `places` decimal places. -/
def withPlaces (places : Nat) (x : Float) : String :=
  match Reading.ofFloat x with
  | .nan => "NaN"
  | .infinite negative => (if negative then "-" else "") ++ "inf"
  | .finite negative value =>
      (if negative then "-" else "") ++ pointed places (value.scaled places).roundEven

end StreetLinkage.Decimal
