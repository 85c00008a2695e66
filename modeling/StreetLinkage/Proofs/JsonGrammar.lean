import StreetLinkage.Json.Reader
import StreetLinkage.Proofs.Digits

/-!
# The grammar of JSON

Which texts stand for which values, form by form, without a word on how a text is read. An element is a
value with blanks around it; the items of an array are elements, a member of an object is a name and an
element, and a whole text is one element (`IsJson`).

Numerals and strings are written in more than one way, so a value has many texts. That a text has one
value at most follows from the reader (`IsJson.unique` in `StreetLinkage.Proofs.JsonReading`).
-/

namespace StreetLinkage.Json

open Decimal (SomeDigits IsWhole)

/-! ### Numerals -/

/-- The point of a numeral and the digits behind it. -/
inductive WritesFraction : List Nat → List Char → Prop where
  | absent : WritesFraction [] []
  | present {digits : List Char} (h : SomeDigits digits) :
      WritesFraction (digits.map digitValue) ('.' :: digits)

/-- The sign of an exponent; true for a minus. -/
inductive WritesSign : Bool → List Char → Prop where
  | none : WritesSign false []
  | plus : WritesSign false ['+']
  | minus : WritesSign true ['-']

/-- A whole number with a sign. -/
def signedPower (negative : Bool) (power : Nat) : Int :=
  if negative then -power else power

/-- The exponent of a numeral. -/
inductive WritesExponent : Option Int → List Char → Prop where
  | absent : WritesExponent none []
  | present {mark : Char} {negative : Bool} {sign digits : List Char}
      (hmark : mark = 'e' ∨ mark = 'E') (hsign : WritesSign negative sign)
      (hdigits : SomeDigits digits) :
      WritesExponent (some (signedPower negative (Nat.ofDigitChars 10 digits 0)))
        (mark :: (sign ++ digits))

/-- A numeral. -/
inductive WritesNumeral : Numeral → List Char → Prop where
  | mk (negative : Bool) {whole fractionText exponentText : List Char} {fraction : List Nat}
      {exponent : Option Int} (hwhole : IsWhole whole) (hfraction : WritesFraction fraction fractionText)
      (hexponent : WritesExponent exponent exponentText) :
      WritesNumeral ⟨negative, Nat.ofDigitChars 10 whole 0, fraction, exponent⟩
        ((if negative then ['-'] else []) ++ (whole ++ (fractionText ++ exponentText)))

/-! ### Strings -/

/-- The text between the quotes of a string. -/
inductive WritesParts : List StringPart → List Char → Prop where
  | nil : WritesParts [] []
  /-- A character as itself: no control character, no quote and no backslash. -/
  | plain {c : Char} {parts : List StringPart} {text : List Char} (hcontrol : 0x20 ≤ c.toNat)
      (hquote : c ≠ '"') (hslash : c ≠ '\\') (h : WritesParts parts text) :
      WritesParts (.char c :: parts) (c :: text)
  | short {mark c : Char} {parts : List StringPart} {text : List Char}
      (hmark : shortEscape? mark = some c) (h : WritesParts parts text) :
      WritesParts (.char c :: parts) ('\\' :: mark :: text)
  | unit {a b c d : Char} {code : Nat} {parts : List StringPart} {text : List Char}
      (hunit : unit? a b c d = some code) (h : WritesParts parts text) :
      WritesParts (.unit code :: parts) ('\\' :: 'u' :: a :: b :: c :: d :: text)

/-! ### Values -/

/-- The text holds nothing but blanks. -/
def Blanks (text : List Char) : Prop :=
  ∀ c ∈ text, isBlank c = true

mutual

/-- A value. -/
inductive WritesValue : Value → List Char → Prop where
  | null : WritesValue .null ['n', 'u', 'l', 'l']
  | trueWord : WritesValue (.bool true) ['t', 'r', 'u', 'e']
  | falseWord : WritesValue (.bool false) ['f', 'a', 'l', 's', 'e']
  | number {n : Numeral} {text : List Char} (h : WritesNumeral n text) : WritesValue (.number n) text
  | string {parts : List StringPart} {text : List Char} (h : WritesParts parts text) :
      WritesValue (.string parts) ('"' :: (text ++ ['"']))
  | noItems {blanks : List Char} (h : Blanks blanks) : WritesValue (.array []) ('[' :: (blanks ++ [']']))
  | array {items : List Value} {text : List Char} (h : WritesItems items text) :
      WritesValue (.array items) ('[' :: (text ++ [']']))
  | noMembers {blanks : List Char} (h : Blanks blanks) :
      WritesValue (.object []) ('\x7b' :: (blanks ++ ['\x7d']))
  | object {members : List (List StringPart × Value)} {text : List Char}
      (h : WritesMembers members text) : WritesValue (.object members) ('\x7b' :: (text ++ ['\x7d']))

/-- A value with blanks around it. -/
inductive WritesElement : Value → List Char → Prop where
  | mk {value : Value} {before text after : List Char} (hbefore : Blanks before)
      (h : WritesValue value text) (hafter : Blanks after) :
      WritesElement value (before ++ (text ++ after))

/-- The items of an array, at least one. -/
inductive WritesItems : List Value → List Char → Prop where
  | last {value : Value} {text : List Char} (h : WritesElement value text) : WritesItems [value] text
  | more {value : Value} {values : List Value} {text rest : List Char} (h : WritesElement value text)
      (hrest : WritesItems values rest) : WritesItems (value :: values) (text ++ ',' :: rest)

/-- A member of an object: its name between blanks, a colon and an element. -/
inductive WritesMember : List StringPart × Value → List Char → Prop where
  | mk {name : List StringPart} {value : Value} {before nameText after text : List Char}
      (hbefore : Blanks before) (hname : WritesParts name nameText) (hafter : Blanks after)
      (h : WritesElement value text) :
      WritesMember (name, value) (before ++ '"' :: (nameText ++ '"' :: (after ++ ':' :: text)))

/-- The members of an object, at least one. -/
inductive WritesMembers : List (List StringPart × Value) → List Char → Prop where
  | last {member : List StringPart × Value} {text : List Char} (h : WritesMember member text) :
      WritesMembers [member] text
  | more {member : List StringPart × Value} {members : List (List StringPart × Value)}
      {text rest : List Char} (h : WritesMember member text) (hrest : WritesMembers members rest) :
      WritesMembers (member :: members) (text ++ ',' :: rest)

end

/-- The text is JSON and stands for the value. -/
def IsJson (text : String) (value : Value) : Prop :=
  WritesElement value text.toList

/-! ### Blanks in front -/

theorem Blanks.append {before after : List Char} (hbefore : Blanks before) (hafter : Blanks after) :
    Blanks (before ++ after) := by
  intro c h
  rcases List.mem_append.mp h with h | h
  · exact hbefore c h
  · exact hafter c h

/-- An element takes more blanks in front. -/
theorem WritesElement.blanks_append {value : Value} {blanks text : List Char} (hblanks : Blanks blanks)
    (h : WritesElement value text) : WritesElement value (blanks ++ text) := by
  obtain ⟨hbefore, h, hafter⟩ := h
  rw [← List.append_assoc]
  exact .mk (hblanks.append hbefore) h hafter

theorem WritesItems.blanks_append {items : List Value} {blanks text : List Char} (hblanks : Blanks blanks)
    (h : WritesItems items text) : WritesItems items (blanks ++ text) := by
  cases h with
  | last h => exact .last (h.blanks_append hblanks)
  | more h hrest =>
      rw [← List.append_assoc]
      exact .more (h.blanks_append hblanks) hrest

theorem WritesMember.blanks_append {member : List StringPart × Value} {blanks text : List Char}
    (hblanks : Blanks blanks) (h : WritesMember member text) : WritesMember member (blanks ++ text) := by
  obtain ⟨hbefore, hname, hafter, h⟩ := h
  rw [← List.append_assoc]
  exact .mk (hblanks.append hbefore) hname hafter h

theorem WritesMembers.blanks_append {members : List (List StringPart × Value)} {blanks text : List Char}
    (hblanks : Blanks blanks) (h : WritesMembers members text) :
    WritesMembers members (blanks ++ text) := by
  cases h with
  | last h => exact .last (h.blanks_append hblanks)
  | more h hrest =>
      rw [← List.append_assoc]
      exact .more (h.blanks_append hblanks) hrest

/-! ### First characters -/

/-- A numeral starts with its sign or with a digit. -/
def StartsNumeral (c : Char) : Prop :=
  c = '-' ∨ c.isDigit = true

theorem isBlank_of_startsNumeral {c : Char} (h : StartsNumeral c) : isBlank c = false := by
  by_contra hblank
  simp only [isBlank, Bool.or_eq_true, beq_iff_eq, Bool.not_eq_false] at hblank
  rcases hblank with ((rfl | rfl) | rfl) | rfl <;> simp [StartsNumeral] at h

/-- A numeral is not empty. -/
theorem WritesNumeral.exists_cons {n : Numeral} {text : List Char} (h : WritesNumeral n text) :
    ∃ c cs, text = c :: cs ∧ StartsNumeral c := by
  cases h with
  | @mk negative whole _ _ _ _ hwhole =>
      cases negative with
      | true => exact ⟨_, _, rfl, .inl rfl⟩
      | false =>
          cases whole with
          | nil => exact absurd rfl hwhole.ne_nil
          | cons d ds => exact ⟨_, _, rfl, .inr (hwhole.isDigit d List.mem_cons_self)⟩

/-- A value is not empty: it starts with a character that neither is skipped nor ends an array. -/
theorem WritesValue.exists_cons {value : Value} {text : List Char} (h : WritesValue value text) :
    ∃ c cs, text = c :: cs ∧ isBlank c = false ∧ c ≠ ']' := by
  cases h with
  | number h =>
      obtain ⟨c, cs, rfl, hc⟩ := h.exists_cons
      refine ⟨c, cs, rfl, isBlank_of_startsNumeral hc, ?_⟩
      rintro rfl
      simp [StartsNumeral] at hc
  | _ => exact ⟨_, _, rfl, by decide, by decide⟩

end StreetLinkage.Json
