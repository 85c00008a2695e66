import StreetLinkage.Proofs.JsonAcceptance

/-!
# Reading JSON

A text is read as a value if and only if it is JSON and stands for the value (`read?_eq_some_iff`). One
direction is `StreetLinkage.Proofs.JsonAcceptance`; the other is here: each reader takes off a text of its
form. The induction is on the steps in hand, for values, items and members together.

So a text has one value at most, and a reader has no choice: one that reads every text that is JSON, and
reads it as what it stands for, is this one (`Reads.eq_read?`).
-/

namespace StreetLinkage.Json

open Decimal (SomeDigits IsWhole)

/-! ### Numerals -/

theorem exists_digits (cs : List Char) :
    ∃ digits rest, (∀ c ∈ digits, c.isDigit = true) ∧ cs = digits ++ rest ∧
      readDigits cs = (digits.map digitValue, rest) :=
  ⟨cs.takeWhile Char.isDigit, cs.dropWhile Char.isDigit, fun _ h => List.mem_takeWhile_imp h,
    List.takeWhile_append_dropWhile.symm, rfl⟩

theorem exists_of_readFraction? {cs rest : List Char} {fraction : List Nat}
    (h : readFraction? cs = some (fraction, rest)) :
    ∃ text, WritesFraction fraction text ∧ cs = text ++ rest := by
  unfold readFraction? at h
  split at h
  · rename_i cs
    obtain ⟨digits, tail, hdigits, rfl, hread⟩ := exists_digits cs
    rw [hread] at h
    cases digits with
    | nil => simp at h
    | cons d ds =>
        obtain ⟨rfl, rfl⟩ : (d :: ds).map digitValue = fraction ∧ tail = rest := by simpa using h
        exact ⟨_, .present ⟨hdigits, by simp⟩, rfl⟩
  · obtain ⟨rfl, rfl⟩ : [] = fraction ∧ cs = rest := by simpa using h
    exact ⟨[], .absent, rfl⟩

theorem exists_of_readPower? {cs rest : List Char} {negative : Bool} {exponent : Option Int}
    (h : readPower? negative cs = some (exponent, rest)) :
    ∃ digits, SomeDigits digits ∧
      exponent = some (signedPower negative (Nat.ofDigitChars 10 digits 0)) ∧ cs = digits ++ rest := by
  obtain ⟨digits, tail, hdigits, rfl, hread⟩ := exists_digits cs
  rw [readPower?, hread] at h
  cases digits with
  | nil => simp at h
  | cons d ds =>
      simp only [List.map_cons, Option.some.injEq, Prod.mk.injEq] at h
      obtain ⟨rfl, rfl⟩ := h
      exact ⟨_, ⟨hdigits, by simp⟩, by rw [← ofDigits_map, signedPower, List.map_cons], rfl⟩

theorem exists_of_readExponent? {cs rest : List Char} {exponent : Option Int}
    (h : readExponent? cs = some (exponent, rest)) :
    ∃ text, WritesExponent exponent text ∧ cs = text ++ rest := by
  unfold readExponent? at h
  split at h
  · rename_i c cs
    split at h
    · have hmark : c = 'e' ∨ c = 'E' := by simpa using ‹(c == 'e' || c == 'E') = true›
      split at h
      · obtain ⟨digits, hdigits, rfl, rfl⟩ := exists_of_readPower? h
        exact ⟨_, .present hmark .minus hdigits, rfl⟩
      · obtain ⟨digits, hdigits, rfl, rfl⟩ := exists_of_readPower? h
        exact ⟨_, .present hmark .plus hdigits, rfl⟩
      · obtain ⟨digits, hdigits, rfl, rfl⟩ := exists_of_readPower? h
        exact ⟨_, .present hmark .none hdigits, rfl⟩
    · obtain ⟨rfl, rfl⟩ : none = exponent ∧ c :: cs = rest := by simpa using h
      exact ⟨[], .absent, rfl⟩
  · obtain ⟨rfl, rfl⟩ : none = exponent ∧ [] = rest := by simpa using h
    exact ⟨[], .absent, rfl⟩

theorem exists_of_readUnsigned? {cs rest : List Char} {negative : Bool} {n : Numeral}
    (h : readUnsigned? negative cs = some (n, rest)) :
    ∃ text, WritesNumeral n ((if negative then ['-'] else []) ++ text) ∧ cs = text ++ rest := by
  obtain ⟨whole, tail, hdigits, rfl, hread⟩ := exists_digits cs
  rw [readUnsigned?, hread] at h
  dsimp only at h
  split at h
  · simp at h
  · simp at h
  · rename_i hne hzeros
    have hwhole : IsWhole whole := (isWhole_iff hdigits).mpr ⟨hne, hzeros⟩
    simp only [Option.bind_eq_bind, Option.bind_eq_some_iff, Prod.exists, Option.some.injEq,
      Prod.mk.injEq] at h
    obtain ⟨fraction, _, hreadFraction, exponent, _, hreadExponent, rfl, rfl⟩ := h
    obtain ⟨fractionText, hfraction, rfl⟩ := exists_of_readFraction? hreadFraction
    obtain ⟨exponentText, hexponent, rfl⟩ := exists_of_readExponent? hreadExponent
    refine ⟨whole ++ (fractionText ++ exponentText), ?_, by simp⟩
    rw [ofDigits_map]
    exact .mk negative hwhole hfraction hexponent

theorem exists_of_readNumeral? {cs rest : List Char} {n : Numeral}
    (h : readNumeral? cs = some (n, rest)) : ∃ text, WritesNumeral n text ∧ cs = text ++ rest := by
  unfold readNumeral? at h
  split at h
  · obtain ⟨text, hn, rfl⟩ := exists_of_readUnsigned? h
    exact ⟨_, hn, rfl⟩
  · obtain ⟨text, hn, rfl⟩ := exists_of_readUnsigned? h
    exact ⟨_, hn, rfl⟩

/-! ### Strings and names -/

theorem exists_of_readString? {cs rest : List Char} {parts : List StringPart}
    (h : readString? cs = some (parts, rest)) :
    ∃ text, WritesParts parts text ∧ cs = text ++ '"' :: rest := by
  fun_induction readString? cs generalizing parts with
  | case1 => simp at h
  | case2 tail =>
      obtain ⟨rfl, rfl⟩ : [] = parts ∧ tail = rest := by simpa using h
      exact ⟨[], .nil, rfl⟩
  | case3 a b c d tail ih =>
      simp only [Option.bind_eq_bind, Option.bind_eq_some_iff, Prod.exists] at h
      obtain ⟨code, hunit, parts', tail', hread, h⟩ := h
      obtain ⟨rfl, rfl⟩ : .unit code :: parts' = parts ∧ tail' = rest := by simpa using h
      obtain ⟨text, hparts, rfl⟩ := ih hread
      exact ⟨_, .unit hunit hparts, rfl⟩
  | case4 mark tail _ ih =>
      simp only [Option.bind_eq_bind, Option.bind_eq_some_iff, Prod.exists] at h
      obtain ⟨c, hmark, parts', tail', hread, h⟩ := h
      obtain ⟨rfl, rfl⟩ : .char c :: parts' = parts ∧ tail' = rest := by simpa using h
      obtain ⟨text, hparts, rfl⟩ := ih hread
      exact ⟨_, .short hmark hparts, rfl⟩
  | case5 => simp at h
  | case6 c tail hquote _ _ hplain ih =>
      simp only [Option.bind_eq_bind, Option.bind_eq_some_iff, Prod.exists] at h
      obtain ⟨parts', tail', hread, h⟩ := h
      obtain ⟨rfl, rfl⟩ : .char c :: parts' = parts ∧ tail' = rest := by simpa using h
      obtain ⟨text, hparts, rfl⟩ := ih hread
      obtain ⟨hcontrol, hslash⟩ : 0x20 ≤ c.toNat ∧ c ≠ '\\' := by simpa using hplain
      exact ⟨_, .plain hcontrol hquote hslash hparts, rfl⟩

theorem exists_of_skipBlanks {cs rest : List Char} (h : skipBlanks cs = rest) :
    ∃ blanks, Blanks blanks ∧ cs = blanks ++ rest :=
  h ▸ exists_blanks cs

theorem exists_of_readName? {cs rest : List Char} {name : List StringPart}
    (h : readName? cs = some (name, rest)) :
    ∃ before text after, Blanks before ∧ WritesParts name text ∧ Blanks after ∧
      cs = before ++ '"' :: (text ++ '"' :: (after ++ ':' :: rest)) := by
  unfold readName? at h
  split at h
  · rename_i tail hcs
    obtain ⟨before, hbefore, rfl⟩ := exists_of_skipBlanks hcs
    simp only [Option.bind_eq_bind, Option.bind_eq_some_iff, Prod.exists] at h
    obtain ⟨parts, tail', hread, h⟩ := h
    obtain ⟨text, hparts, rfl⟩ := exists_of_readString? hread
    split at h
    · rename_i tail'' hcolon
      obtain ⟨after, hafter, rfl⟩ := exists_of_skipBlanks hcolon
      obtain ⟨rfl, rfl⟩ : parts = name ∧ tail'' = rest := by simpa using h
      exact ⟨before, text, after, hbefore, hparts, hafter, rfl⟩
    · simp at h
  · simp at h

/-! ### Values -/

theorem eq_append_of_dropWord? {word cs rest : List Char} (h : dropWord? word cs = some rest) :
    cs = word ++ rest := by
  simp only [dropWord?, List.isPrefixOf_iff_prefix, Option.ite_none_right_eq_some, Option.some.injEq] at h
  obtain ⟨hword, rfl⟩ := h
  exact (List.prefix_iff_eq_append.mp hword).symm

theorem exists_of_readScalar? {cs rest : List Char} {value : Value}
    (h : readScalar? cs = some (value, rest)) : ∃ text, WritesValue value text ∧ cs = text ++ rest := by
  unfold readScalar? at h
  split at h <;> simp only [Option.map_eq_some_iff, Prod.mk.injEq, Prod.exists] at h
  · obtain ⟨_, hword, rfl, rfl⟩ := h
    exact ⟨_, .null, eq_append_of_dropWord? hword⟩
  · obtain ⟨_, hword, rfl, rfl⟩ := h
    exact ⟨_, .trueWord, eq_append_of_dropWord? hword⟩
  · obtain ⟨_, hword, rfl, rfl⟩ := h
    exact ⟨_, .falseWord, eq_append_of_dropWord? hword⟩
  · obtain ⟨n, _, hread, rfl, rfl⟩ := h
    obtain ⟨text, hn, rfl⟩ := exists_of_readNumeral? hread
    exact ⟨_, .number hn, rfl⟩

/-- A value is read with the steps in hand only where one is written. -/
def ValueSound (steps : Nat) : Prop :=
  ∀ ⦃cs rest value⦄, readValue? steps cs = some (value, rest) →
    ∃ before text, Blanks before ∧ WritesValue value text ∧ cs = before ++ (text ++ rest)

/-- Items are read with the steps in hand only where they are written. -/
def ItemsSound (steps : Nat) : Prop :=
  ∀ ⦃cs rest items⦄, readItems? steps cs = some (items, rest) →
    ∃ text, WritesItems items text ∧ cs = text ++ ']' :: rest

/-- Members are read with the steps in hand only where they are written. -/
def MembersSound (steps : Nat) : Prop :=
  ∀ ⦃cs rest members⦄, readMembers? steps cs = some (members, rest) →
    ∃ text, WritesMembers members text ∧ cs = text ++ '\x7d' :: rest

theorem valueSound_succ {steps : Nat} (hitems : ItemsSound steps) (hmembers : MembersSound steps) :
    ValueSound (steps + 1) := by
  intro cs rest value h
  obtain ⟨before, hbefore, hcs⟩ := exists_blanks cs
  refine ⟨before, ?_⟩
  -- What is in front of a value is the same for every form of it.
  suffices h : ∃ text, WritesValue value text ∧ skipBlanks cs = text ++ rest by
    obtain ⟨text, hvalue, htext⟩ := h
    exact ⟨text, hbefore, hvalue, htext ▸ hcs⟩
  unfold readValue? at h
  split at h
  · rename_i hquote
    simp only [Option.map_eq_some_iff, Prod.mk.injEq, Prod.exists] at h
    obtain ⟨parts, _, hread, rfl, rfl⟩ := h
    obtain ⟨text, hparts, rfl⟩ := exists_of_readString? hread
    exact ⟨_, .string hparts, by simp [hquote]⟩
  · rename_i tail hopen
    -- The blanks behind the bracket belong to the first item, if there is one.
    obtain ⟨blanks, hblanks, htail⟩ := exists_blanks tail
    split at h
    · rename_i hclose
      obtain ⟨rfl, rfl⟩ : _ ∧ _ = rest := by simpa using h
      exact ⟨_, .noItems hblanks, by rw [hopen, htail, hclose]; simp⟩
    · simp only [Option.map_eq_some_iff, Prod.mk.injEq, Prod.exists] at h
      obtain ⟨items, _, hread, rfl, rfl⟩ := h
      obtain ⟨text, hitems, htext⟩ := hitems hread
      exact ⟨_, .array (hitems.blanks_append hblanks), by rw [hopen, htail, htext]; simp⟩
  · rename_i tail hopen
    obtain ⟨blanks, hblanks, htail⟩ := exists_blanks tail
    split at h
    · rename_i hclose
      obtain ⟨rfl, rfl⟩ : _ ∧ _ = rest := by simpa using h
      exact ⟨_, .noMembers hblanks, by rw [hopen, htail, hclose]; simp⟩
    · simp only [Option.map_eq_some_iff, Prod.mk.injEq, Prod.exists] at h
      obtain ⟨members, _, hread, rfl, rfl⟩ := h
      obtain ⟨text, hmembers, htext⟩ := hmembers hread
      exact ⟨_, .object (hmembers.blanks_append hblanks), by rw [hopen, htail, htext]; simp⟩
  · exact exists_of_readScalar? h

theorem itemsSound_succ {steps : Nat} (hvalue : ValueSound steps) (hitems : ItemsSound steps) :
    ItemsSound (steps + 1) := by
  intro cs rest items h
  simp only [readItems?, Option.bind_eq_bind, Option.bind_eq_some_iff, Prod.exists] at h
  obtain ⟨value, tail, hread, h⟩ := h
  obtain ⟨before, text, hbefore, hvalue, rfl⟩ := hvalue hread
  split at h
  · rename_i tail' hcomma
    obtain ⟨after, hafter, rfl⟩ := exists_of_skipBlanks hcomma
    simp only [Option.bind_eq_some_iff, Prod.exists] at h
    obtain ⟨values, tail'', hmore, h⟩ := h
    obtain ⟨rfl, rfl⟩ : value :: values = items ∧ tail'' = rest := by simpa using h
    obtain ⟨text', hvalues, rfl⟩ := hitems hmore
    exact ⟨_, .more (.mk hbefore hvalue hafter) hvalues, by simp⟩
  · rename_i tail' hclose
    obtain ⟨after, hafter, rfl⟩ := exists_of_skipBlanks hclose
    obtain ⟨rfl, rfl⟩ : [value] = items ∧ tail' = rest := by simpa using h
    exact ⟨_, .last (.mk hbefore hvalue hafter), by simp⟩
  · simp at h

theorem membersSound_succ {steps : Nat} (hvalue : ValueSound steps) (hmembers : MembersSound steps) :
    MembersSound (steps + 1) := by
  intro cs rest members h
  simp only [readMembers?, Option.bind_eq_bind, Option.bind_eq_some_iff, Prod.exists] at h
  obtain ⟨name, _, hreadName, value, tail, hread, h⟩ := h
  obtain ⟨blanks, nameText, blanks', hblanks, hname, hblanks', rfl⟩ := exists_of_readName? hreadName
  obtain ⟨before, text, hbefore, hvalue, rfl⟩ := hvalue hread
  split at h
  · rename_i tail' hcomma
    obtain ⟨after, hafter, rfl⟩ := exists_of_skipBlanks hcomma
    simp only [Option.bind_eq_some_iff, Prod.exists] at h
    obtain ⟨members', tail'', hmore, h⟩ := h
    obtain ⟨rfl, rfl⟩ : (name, value) :: members' = members ∧ tail'' = rest := by simpa using h
    obtain ⟨text', hmembers, rfl⟩ := hmembers hmore
    exact ⟨_, .more (.mk hblanks hname hblanks' (.mk hbefore hvalue hafter)) hmembers, by simp⟩
  · rename_i tail' hclose
    obtain ⟨after, hafter, rfl⟩ := exists_of_skipBlanks hclose
    obtain ⟨rfl, rfl⟩ : [(name, value)] = members ∧ tail' = rest := by simpa using h
    exact ⟨_, .last (.mk hblanks hname hblanks' (.mk hbefore hvalue hafter)), by simp⟩
  · simp at h

theorem reading_sound (steps : Nat) : ValueSound steps ∧ ItemsSound steps ∧ MembersSound steps := by
  induction steps with
  | zero => refine ⟨?_, ?_, ?_⟩ <;> intro cs rest _ h <;> cases h
  | succ steps ih =>
      obtain ⟨hvalue, hitems, hmembers⟩ := ih
      exact ⟨valueSound_succ hitems hmembers, itemsSound_succ hvalue hitems,
        membersSound_succ hvalue hmembers⟩

/-- **A text is read as a value if and only if it is JSON and stands for the value.** -/
theorem read?_eq_some_iff {text : String} {value : Value} : read? text = some value ↔ IsJson text value := by
  constructor
  · intro h
    cases hread : readValue? (text.toList.length + 1) text.toList with
    | none => simp [read?, hread] at h
    | some result =>
        obtain ⟨value', rest⟩ := result
        obtain ⟨hrest, rfl⟩ : skipBlanks rest = [] ∧ value' = value := by simpa [read?, hread] using h
        obtain ⟨before, valueText, hbefore, hvalue, htext⟩ := (reading_sound _).1 hread
        obtain ⟨after, hafter, rfl⟩ := exists_of_skipBlanks hrest
        rw [List.append_nil] at htext
        rw [IsJson, htext]
        exact .mk hbefore hvalue hafter
  · intro h
    obtain ⟨tail, hread, htail⟩ := h.readValue?_append (Nat.lt_succ_self _) [] (by simp [NumeralEnd])
    have hrest : skipBlanks tail = [] := htail
    rw [List.append_nil] at hread
    simp [read?, hread, hrest]

/-- A text stands for one value at most. -/
theorem IsJson.unique {text : String} {value value' : Value} (h : IsJson text value)
    (h' : IsJson text value') : value = value' := by
  rw [← read?_eq_some_iff] at h h'
  exact Option.some.inj (h.symm.trans h')

/-- What is asked of a reader of JSON. -/
structure Reads (reader : String → Option Value) : Prop where
  /-- What is read is what the text stands for. -/
  sound : ∀ {text value}, reader text = some value → IsJson text value
  /-- Every text that stands for a value is read. -/
  complete : ∀ {text value}, IsJson text value → ∃ value', reader text = some value'

theorem reads_read? : Reads read? where
  sound := read?_eq_some_iff.mp
  complete h := ⟨_, read?_eq_some_iff.mpr h⟩

/-- All readers agree, also on the texts that they refuse. -/
theorem Reads.eq_read? {reader : String → Option Value} (h : Reads reader) : reader = read? := by
  funext text
  cases hread : read? text with
  | none =>
      refine Option.eq_none_iff_forall_ne_some.mpr fun value hvalue => ?_
      rw [read?_eq_some_iff.mpr (h.sound hvalue)] at hread
      cases hread
  | some value =>
      have hjson := reads_read?.sound hread
      obtain ⟨value', hvalue'⟩ := h.complete hjson
      rw [hvalue', (h.sound hvalue').unique hjson]

end StreetLinkage.Json
