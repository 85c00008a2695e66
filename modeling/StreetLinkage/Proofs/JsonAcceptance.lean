import Mathlib.Data.List.TakeWhile
import StreetLinkage.Proofs.JsonGrammar

/-!
# JSON is read

What the grammar derives is read as the value that it stands for, whatever text follows. Two things are
asked of that text and of the reader:

* after a numeral, nothing follows that the numeral could go on with (`NumeralEnd`). What follows a value
  inside a value is a blank, a comma or a closing bracket;
* there are more steps in hand than there are characters in the text of the value. Items and members need
  one more, since they take a step before their first value does.

The derivations of values, elements, items and members contain each other, so one induction goes over all
of them.
-/

namespace StreetLinkage.Json

open Decimal (SomeDigits IsWhole NoDigitAhead span_digits)

/-! ### Blanks -/

theorem skipBlanks_append {blanks : List Char} (h : Blanks blanks) (rest : List Char) :
    skipBlanks (blanks ++ rest) = skipBlanks rest :=
  List.dropWhile_append_of_pos h

theorem skipBlanks_cons {c : Char} (h : isBlank c = false) (rest : List Char) :
    skipBlanks (c :: rest) = c :: rest := by
  simp [skipBlanks, h]

theorem exists_blanks (cs : List Char) : ∃ blanks, Blanks blanks ∧ cs = blanks ++ skipBlanks cs :=
  ⟨cs.takeWhile isBlank, fun _ h => List.mem_takeWhile_imp h, List.takeWhile_append_dropWhile.symm⟩

@[simp] theorem skipBlanks_skipBlanks (cs : List Char) : skipBlanks (skipBlanks cs) = skipBlanks cs := by
  obtain ⟨blanks, hblanks, hcs⟩ := exists_blanks cs
  conv_rhs => rw [hcs, skipBlanks_append hblanks]

/-! ### Numerals -/

theorem readDigits_append {digits rest : List Char} (h : ∀ c ∈ digits, c.isDigit = true)
    (hrest : NoDigitAhead rest) : readDigits (digits ++ rest) = (digits.map digitValue, rest) := by
  obtain ⟨htake, hdrop⟩ := span_digits h hrest
  rw [readDigits, htake, hdrop]

theorem ofDigits_map (digits : List Char) :
    ofDigits (digits.map digitValue) = Nat.ofDigitChars 10 digits 0 := by
  rw [ofDigits, List.foldl_map]
  rfl

theorem digitValue_eq_zero {c : Char} (h : c.isDigit = true) : digitValue c = 0 ↔ c = '0' := by
  rw [Char.isDigit_iff_toNat] at h
  rw [← Char.toNat_inj, digitValue]
  simp only [Char.reduceToNat] at h ⊢
  omega

/-- The text goes on with nothing that the part in front of an exponent could go on with. -/
def FractionEnd (rest : List Char) : Prop :=
  ∀ c ∈ rest.head?, c.isDigit = false ∧ c ≠ '.'

/-- The text goes on with nothing that a numeral could go on with. -/
def NumeralEnd (rest : List Char) : Prop :=
  ∀ c ∈ rest.head?, c.isDigit = false ∧ c ≠ '.' ∧ c ≠ 'e' ∧ c ≠ 'E'

theorem NumeralEnd.noDigitAhead {rest : List Char} (h : NumeralEnd rest) : NoDigitAhead rest :=
  fun c hc => (h c hc).1

theorem WritesFraction.noDigitAhead {fraction : List Nat} {text rest : List Char}
    (h : WritesFraction fraction text) (hrest : FractionEnd rest) : NoDigitAhead (text ++ rest) := by
  cases h with
  | absent => exact fun c hc => (hrest c hc).1
  | present => simp [NoDigitAhead]

theorem WritesExponent.fractionEnd {exponent : Option Int} {text rest : List Char}
    (h : WritesExponent exponent text) (hrest : NumeralEnd rest) : FractionEnd (text ++ rest) := by
  cases h with
  | absent => exact fun c hc => ⟨(hrest c hc).1, (hrest c hc).2.1⟩
  | present hmark => rcases hmark with rfl | rfl <;> simp [FractionEnd]

theorem WritesFraction.readFraction?_append {fraction : List Nat} {text rest : List Char}
    (h : WritesFraction fraction text) (hrest : FractionEnd rest) :
    readFraction? (text ++ rest) = some (fraction, rest) := by
  cases h with
  | absent =>
      cases rest with
      | nil => rfl
      | cons c rest =>
          have hc : c ≠ '.' := (hrest c rfl).2
          simp [readFraction?, hc]
  | present h =>
      have hread := readDigits_append h.isDigit fun c hc => (hrest c hc).1
      rename_i digits
      cases digits with
      | nil => exact absurd rfl h.ne_nil
      | cons d ds =>
          rw [List.cons_append, readFraction?, hread]
          rfl

theorem readPower?_append {digits rest : List Char} (h : SomeDigits digits) (hrest : NoDigitAhead rest)
    (negative : Bool) :
    readPower? negative (digits ++ rest) =
      some (some (signedPower negative (Nat.ofDigitChars 10 digits 0)), rest) := by
  rw [readPower?, readDigits_append h.isDigit hrest]
  cases digits with
  | nil => exact absurd rfl h.ne_nil
  | cons d ds =>
      simp only [List.map_cons, ← ofDigits_map, signedPower]

theorem WritesExponent.readExponent?_append {exponent : Option Int} {text rest : List Char}
    (h : WritesExponent exponent text) (hrest : NumeralEnd rest) :
    readExponent? (text ++ rest) = some (exponent, rest) := by
  cases h with
  | absent =>
      cases rest with
      | nil => rfl
      | cons c rest =>
          have hc := (hrest c rfl).2.2
          simp [readExponent?, hc]
  | @present mark negative sign digits hmark hsign hdigits =>
      have hread := readPower?_append hdigits hrest.noDigitAhead
      have hmark : (mark == 'e' || mark == 'E') = true := by simpa using hmark
      cases hsign with
      | none =>
          simp only [List.nil_append, List.cons_append, readExponent?, hmark, if_true]
          -- The first digit is neither of the signs.
          split
          · exact absurd ‹_› (hdigits.append_ne_cons (by decide))
          · exact absurd ‹_› (hdigits.append_ne_cons (by decide))
          · exact hread false
      | plus => simpa [readExponent?, hmark] using hread false
      | minus => simpa [readExponent?, hmark] using hread true

/-- The reader tells whole numbers by the values of their digits. -/
theorem isWhole_iff {whole : List Char} (h : ∀ c ∈ whole, c.isDigit = true) :
    IsWhole whole ↔ whole.map digitValue ≠ [] ∧
      ∀ digit digits, whole.map digitValue ≠ 0 :: digit :: digits := by
  match whole with
  | [] => exact ⟨fun hwhole => absurd rfl hwhole.ne_nil, fun hvalues => absurd rfl hvalues.1⟩
  | [c] => exact ⟨fun _ => by simp, fun _ => ⟨⟨h, by simp⟩, by simp⟩⟩
  | c :: d :: ds =>
      have hzero := digitValue_eq_zero (h c List.mem_cons_self)
      constructor
      · intro hwhole
        have hc : c ≠ '0' := by
          rintro rfl
          simpa using hwhole.canonical rfl
        simp [hzero, hc]
      · rintro ⟨-, hvalues⟩
        refine ⟨⟨h, by simp⟩, fun hhead => ?_⟩
        have hc : c = '0' := by simpa using hhead
        exact absurd (by simp [hzero.mpr hc]) (hvalues (digitValue d) (ds.map digitValue))

theorem readUnsigned?_append {whole fractionText exponentText rest : List Char} {fraction : List Nat}
    {exponent : Option Int} (hwhole : IsWhole whole) (hfraction : WritesFraction fraction fractionText)
    (hexponent : WritesExponent exponent exponentText) (hrest : NumeralEnd rest) (negative : Bool) :
    readUnsigned? negative (whole ++ (fractionText ++ (exponentText ++ rest))) =
      some (⟨negative, Nat.ofDigitChars 10 whole 0, fraction, exponent⟩, rest) := by
  have hend := hexponent.fractionEnd hrest
  obtain ⟨hne, hzeros⟩ := (isWhole_iff hwhole.isDigit).mp hwhole
  rw [readUnsigned?, readDigits_append hwhole.isDigit (hfraction.noDigitAhead hend)]
  dsimp only
  split
  · exact absurd ‹_› hne
  · exact absurd ‹_› (hzeros _ _)
  · simp [hfraction.readFraction?_append hend, hexponent.readExponent?_append hrest, ofDigits_map]

theorem WritesNumeral.readNumeral?_append {n : Numeral} {text rest : List Char}
    (h : WritesNumeral n text) (hrest : NumeralEnd rest) :
    readNumeral? (text ++ rest) = some (n, rest) := by
  cases h with
  | @mk negative whole fractionText exponentText _ _ hwhole hfraction hexponent =>
      have hread := readUnsigned?_append hwhole hfraction hexponent hrest
      cases negative with
      | true => simpa [readNumeral?] using hread true
      | false =>
          simp only [Bool.false_eq_true, if_false, List.nil_append, List.append_assoc]
          rw [readNumeral?]
          · exact hread false
          · exact fun cs => hwhole.append_ne_cons (by decide)

/-! ### Strings -/

theorem WritesParts.readString?_append {parts : List StringPart} {text : List Char}
    (h : WritesParts parts text) (rest : List Char) :
    readString? (text ++ '"' :: rest) = some (parts, rest) := by
  induction h with
  | nil => simp [readString?]
  | plain hcontrol _ hslash _ ih =>
      simp [readString?, hslash, Nat.not_lt.mpr hcontrol, ih]
  | @short mark _ _ _ hmark _ ih =>
      have hne : mark ≠ 'u' := by
        rintro rfl
        simp [shortEscape?] at hmark
      simp [readString?, hmark, hne, ih]
  | unit hunit _ ih => simp [readString?, hunit, ih]

/-! ### First steps of the readers -/

theorem readValue?_numeral {c : Char} (h : StartsNumeral c) (steps : Nat) (cs : List Char) :
    readValue? (steps + 1) (c :: cs) =
      (readNumeral? (c :: cs)).map fun (n, rest) => (.number n, rest) := by
  rw [readValue?, skipBlanks_cons (isBlank_of_startsNumeral h)]
  -- No other form starts like a numeral.
  have hne : c ≠ '"' ∧ c ≠ '[' ∧ c ≠ '\x7b' ∧ c ≠ 'n' ∧ c ≠ 't' ∧ c ≠ 'f' := by
    refine ⟨?_, ?_, ?_, ?_, ?_, ?_⟩ <;> rintro rfl <;> simp [StartsNumeral] at h
  simp [readScalar?, hne]

theorem readValue?_skipBlanks (steps : Nat) (cs : List Char) :
    readValue? steps (skipBlanks cs) = readValue? steps cs := by
  cases steps with
  | zero => rfl
  | succ steps => simp only [readValue?, skipBlanks_skipBlanks]

theorem readItems?_skipBlanks (steps : Nat) (cs : List Char) :
    readItems? steps (skipBlanks cs) = readItems? steps cs := by
  cases steps with
  | zero => rfl
  | succ steps => simp only [readItems?, readValue?_skipBlanks]

theorem readMembers?_skipBlanks (steps : Nat) (cs : List Char) :
    readMembers? steps (skipBlanks cs) = readMembers? steps cs := by
  cases steps with
  | zero => rfl
  | succ steps => simp only [readMembers?, readName?, skipBlanks_skipBlanks]

theorem NumeralEnd.blanks_append {blanks rest : List Char} (h : Blanks blanks) (hrest : NumeralEnd rest) :
    NumeralEnd (blanks ++ rest) := by
  cases blanks with
  | nil => exact hrest
  | cons c cs =>
      have hc := h c List.mem_cons_self
      simp only [isBlank, Bool.or_eq_true, beq_iff_eq] at hc
      rcases hc with ((rfl | rfl) | rfl) | rfl <;> simp [NumeralEnd]

theorem WritesElement.skipBlanks_append_ne {value : Value} {text : List Char}
    (h : WritesElement value text) (rest cs : List Char) : skipBlanks (text ++ rest) ≠ ']' :: cs := by
  obtain ⟨hbefore, h, -⟩ := h
  obtain ⟨c, cs, rfl, hblank, hc⟩ := h.exists_cons
  rw [List.append_assoc, Json.skipBlanks_append hbefore]
  simp [skipBlanks_cons hblank, hc]

theorem WritesItems.skipBlanks_append_ne {items : List Value} {text : List Char}
    (h : WritesItems items text) (rest cs : List Char) : skipBlanks (text ++ rest) ≠ ']' :: cs := by
  cases h with
  | last h => exact h.skipBlanks_append_ne rest cs
  | more h =>
      rw [List.append_assoc]
      exact h.skipBlanks_append_ne _ cs

theorem WritesMember.skipBlanks_append_ne {member : List StringPart × Value} {text : List Char}
    (h : WritesMember member text) (rest cs : List Char) : skipBlanks (text ++ rest) ≠ '\x7d' :: cs := by
  obtain ⟨hbefore, -, -, -⟩ := h
  rw [List.append_assoc, Json.skipBlanks_append hbefore]
  simp [skipBlanks_cons, isBlank]

theorem WritesMembers.skipBlanks_append_ne {members : List (List StringPart × Value)} {text : List Char}
    (h : WritesMembers members text) (rest cs : List Char) :
    skipBlanks (text ++ rest) ≠ '\x7d' :: cs := by
  cases h with
  | last h => exact h.skipBlanks_append_ne rest cs
  | more h =>
      rw [List.append_assoc]
      exact h.skipBlanks_append_ne _ cs

theorem readName?_append {name : List StringPart} {before text after : List Char} (hbefore : Blanks before)
    (hname : WritesParts name text) (hafter : Blanks after) (rest : List Char) :
    readName? (before ++ '"' :: (text ++ '"' :: (after ++ ':' :: rest))) = some (name, rest) := by
  simp [readName?, skipBlanks_append hbefore, skipBlanks_append hafter, skipBlanks_cons, isBlank,
    hname.readString?_append]

/-- An array that does not end at once has items. -/
theorem readValue?_array {cs : List Char} (h : ∀ rest, skipBlanks cs ≠ ']' :: rest) (steps : Nat) :
    readValue? (steps + 1) ('[' :: cs) =
      (readItems? steps cs).map fun (items, rest) => (.array items, rest) := by
  have hbracket : isBlank '[' = false := by decide
  -- By `h`, what is left after the blanks takes the second branch of the inner match.
  simp only [readValue?, skipBlanks_cons hbracket, readItems?_skipBlanks]

/-- An object that does not end at once has members. -/
theorem readValue?_object {cs : List Char} (h : ∀ rest, skipBlanks cs ≠ '\x7d' :: rest) (steps : Nat) :
    readValue? (steps + 1) ('\x7b' :: cs) =
      (readMembers? steps cs).map fun (members, rest) => (.object members, rest) := by
  have hbrace : isBlank '\x7b' = false := by decide
  simp only [readValue?, skipBlanks_cons hbrace, readMembers?_skipBlanks]

/-! ### Values -/

mutual

/-- The text of a value is read as the value, in front of what ends a numeral. -/
theorem WritesValue.readValue?_append {value : Value} {text rest : List Char} {steps : Nat}
    (h : WritesValue value text) (hsteps : text.length < steps) (hrest : NumeralEnd rest) :
    readValue? steps (text ++ rest) = some (value, rest) := by
  obtain ⟨steps, rfl⟩ : ∃ s, steps = s + 1 := ⟨steps - 1, by omega⟩
  cases h with
  | null => rfl
  | trueWord => rfl
  | falseWord => rfl
  | number h =>
      obtain ⟨c, cs, rfl, hc⟩ := h.exists_cons
      rw [List.cons_append, readValue?_numeral hc, ← List.cons_append, h.readNumeral?_append hrest]
      rfl
  | string h => simp [readValue?, skipBlanks_cons, isBlank, h.readString?_append]
  | noItems h => simp [readValue?, skipBlanks_cons, isBlank, skipBlanks_append h]
  | noMembers h => simp [readValue?, skipBlanks_cons, isBlank, skipBlanks_append h]
  | @array items text h =>
      -- The brackets are the two characters by which the items fall short of the steps.
      simp only [List.length_cons, List.length_append, List.length_nil] at hsteps
      have hread : readItems? steps (text ++ ']' :: rest) = some (items, rest) :=
        WritesItems.readItems?_append h (by omega)
      simp [readValue?_array (h.skipBlanks_append_ne _), hread]
  | @object members text h =>
      simp only [List.length_cons, List.length_append, List.length_nil] at hsteps
      have hread : readMembers? steps (text ++ '\x7d' :: rest) = some (members, rest) :=
        WritesMembers.readMembers?_append h (by omega)
      simp [readValue?_object (h.skipBlanks_append_ne _), hread]

/-- An element is read up to the blanks behind its value, which whoever goes on skips. -/
theorem WritesElement.readValue?_append {value : Value} {text : List Char}
    (h : WritesElement value text) {steps : Nat} (hsteps : text.length < steps) (rest : List Char)
    (hrest : NumeralEnd rest) :
    ∃ tail, readValue? steps (text ++ rest) = some (value, tail) ∧
      skipBlanks tail = skipBlanks rest := by
  cases h with
  | @mk _ before text after hbefore h hafter =>
      simp only [List.length_append] at hsteps
      have hread : readValue? steps (text ++ (after ++ rest)) = some (value, after ++ rest) :=
        WritesValue.readValue?_append h (by omega) (hrest.blanks_append hafter)
      refine ⟨after ++ rest, ?_, skipBlanks_append hafter rest⟩
      rw [List.append_assoc, List.append_assoc, ← readValue?_skipBlanks, skipBlanks_append hbefore,
        readValue?_skipBlanks, hread]

/-- The items of an array are read up to its closing bracket. -/
theorem WritesItems.readItems?_append {items : List Value} {text rest : List Char} {steps : Nat}
    (h : WritesItems items text) (hsteps : text.length + 1 < steps) :
    readItems? steps (text ++ ']' :: rest) = some (items, rest) := by
  obtain ⟨steps, rfl⟩ : ∃ s, steps = s + 1 := ⟨steps - 1, by omega⟩
  cases h with
  | last h =>
      obtain ⟨tail, hread, htail⟩ :=
        WritesElement.readValue?_append h (Nat.lt_of_succ_lt_succ hsteps) (']' :: rest)
          (by simp [NumeralEnd])
      simp [readItems?, hread, htail, skipBlanks_cons, isBlank]
  | @more value values text after h hafter =>
      simp only [List.length_append, List.length_cons] at hsteps
      have htext : text.length < steps := by omega
      obtain ⟨tail, hread, htail⟩ :=
        WritesElement.readValue?_append h htext (',' :: (after ++ ']' :: rest)) (by simp [NumeralEnd])
      have hmore : readItems? steps (after ++ ']' :: rest) = some (values, rest) :=
        WritesItems.readItems?_append hafter (by omega)
      simp [readItems?, hread, htail, hmore, skipBlanks_cons, isBlank]

/-- A member is read as its name, with the colon, and its value. -/
theorem WritesMember.read_append {member : List StringPart × Value} {text : List Char}
    (h : WritesMember member text) {steps : Nat} (hsteps : text.length < steps) (rest : List Char)
    (hrest : NumeralEnd rest) :
    ∃ cs tail, readName? (text ++ rest) = some (member.1, cs) ∧
      readValue? steps cs = some (member.2, tail) ∧ skipBlanks tail = skipBlanks rest := by
  cases h with
  | @mk name value before nameText after text hbefore hname hafter h =>
      simp only [List.length_append, List.length_cons] at hsteps
      have htext : text.length < steps := by omega
      obtain ⟨tail, hread, htail⟩ := WritesElement.readValue?_append h htext rest hrest
      refine ⟨text ++ rest, tail, ?_, hread, htail⟩
      simpa using readName?_append hbefore hname hafter (text ++ rest)

/-- The members of an object are read up to its closing brace. -/
theorem WritesMembers.readMembers?_append {members : List (List StringPart × Value)}
    {text rest : List Char} {steps : Nat} (h : WritesMembers members text)
    (hsteps : text.length + 1 < steps) :
    readMembers? steps (text ++ '\x7d' :: rest) = some (members, rest) := by
  obtain ⟨steps, rfl⟩ : ∃ s, steps = s + 1 := ⟨steps - 1, by omega⟩
  cases h with
  | @last member _ h =>
      obtain ⟨cs, tail, hname, hread, htail⟩ :=
        WritesMember.read_append h (Nat.lt_of_succ_lt_succ hsteps) ('\x7d' :: rest)
          (by simp [NumeralEnd])
      simp [readMembers?, hname, hread, htail, skipBlanks_cons, isBlank]
  | @more member members text after h hafter =>
      simp only [List.length_append, List.length_cons] at hsteps
      have htext : text.length < steps := by omega
      obtain ⟨cs, tail, hname, hread, htail⟩ :=
        WritesMember.read_append h htext (',' :: (after ++ '\x7d' :: rest)) (by simp [NumeralEnd])
      have hmore : readMembers? steps (after ++ '\x7d' :: rest) = some (members, rest) :=
        WritesMembers.readMembers?_append hafter (by omega)
      simp [readMembers?, hname, hread, htail, hmore, skipBlanks_cons, isBlank]

end

end StreetLinkage.Json
