import StreetLinkage.Decimal.Shortest

/-!
# Layouts of floating numbers

Two texts of a floating number use the same shortest digits and differ in their layout. In running
text (`Layout.plain`) numbers are written out in full and whole numbers have no point. In texts for a
developer (`Layout.inspected`) whole numbers keep a `.0`, so that the text shows a floating number,
and very large or small values take an exponent.
-/

namespace StreetLinkage.Decimal

/-- The decisions of a floating number's text. -/
structure Layout where
  /-- Is a value whose first digit stands for `10 ^ e` written without an exponent? -/
  positional : Int → Bool
  /-- Does a whole number keep `.0`? -/
  keepPoint : Bool

/-- Never an exponent, and no point in a whole number. -/
def Layout.plain : Layout := ⟨fun _ => true, false⟩

/-- Always a point, and an exponent below `10 ^ -4` or from `10 ^ 16`. -/
def Layout.inspected : Layout := ⟨fun e => -4 ≤ e && e < 16, true⟩

/-- `count` zeros. -/
def zeros (count : Nat) : String :=
  String.ofList (List.replicate count '0')

/-- The digits of `n`, at least `width` of them. -/
def padded (width n : Nat) : String :=
  zeros (width - digitCount n) ++ toString n

/-- The whole number `n` read with a point before its last `places` digits. -/
def pointed (places n : Nat) : String :=
  if places = 0 then toString n
  else toString (n / Nat.pow 10 places) ++ "." ++ padded places (n % Nat.pow 10 places)

namespace Digits

/-- The power of ten that the first digit stands for. -/
def leading (d : Digits) : Int :=
  d.exponent + digitCount d.digits - 1

/-- The decimal written out in full. -/
def positional (keepPoint : Bool) (d : Digits) : String :=
  if 0 ≤ d.exponent then
    toString (d.digits * Nat.pow 10 d.exponent.toNat) ++ (if keepPoint then ".0" else "")
  else
    pointed (-d.exponent).toNat d.digits

/-- The decimal with one digit before the point and an exponent. -/
def scientific (d : Digits) : String :=
  pointed (digitCount d.digits - 1) d.digits ++ "e" ++ toString d.leading

end Digits

/-- The text of a reading. -/
def Reading.render (layout : Layout) : Reading → String
  | .nan => "NaN"
  | .infinite negative => (if negative then "-" else "") ++ "inf"
  | .finite negative value =>
      let d := value.shortest
      (if negative then "-" else "") ++
        (if d.digits = 0 || layout.positional d.leading then d.positional layout.keepPoint
         else d.scientific)

/-- A floating number in running text. -/
def plain (x : Float) : String :=
  (Reading.ofFloat x).render .plain

/-- A floating number in a text for a developer. -/
def inspected (x : Float) : String :=
  (Reading.ofFloat x).render .inspected

end StreetLinkage.Decimal
