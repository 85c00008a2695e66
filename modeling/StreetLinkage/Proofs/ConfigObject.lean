import Mathlib
import StreetLinkage.Proofs.JsonReading
import StreetLinkage.Settings

/-!
# Configuration objects

A configuration is read off an object one member after the other, each filling a field of a draft. So a
field only sees the values of its own name, in their order (`foldlM_add?`), and it is filled by the only
one of them or, without any, by its default (`Fills`, `ofMembers?_eq_some_iff`). Hence neither the order of
the members nor members of other names matter (`Rearranged.ofMembers?_eq`).

The names of members are texts (`IsObject`). An escape of half of a pair is no character on its own. It
does no harm in a value that nobody asks for, but every name is asked for, and an object with such a name
is refused, even if no field has it (`read?_of_unnamed`).
-/

namespace StreetLinkage

/-! ### Values of settings -/

theorem Json.Numeral.toNat?_eq_some_iff {n : Json.Numeral} {k : Nat} :
    n.toNat? = some k ↔ n = { whole := k } := by
  obtain ⟨negative, whole, fraction, exponent⟩ := n
  cases negative <;> cases fraction <;> cases exponent <;> simp [toNat?]

theorem capacityOfJson?_eq_some_iff {value : Json.Value} {n : Nat} :
    capacityOfJson? value = some n ↔ value = .number { whole := n } ∧ n < 2 ^ 64 := by
  have hbound : capacityBound = 2 ^ 64 := rfl
  rw [capacityOfJson?, Option.filter_eq_some_iff, decide_eq_true_eq, hbound]
  cases value <;> simp [Json.Value.nat?, Json.Numeral.toNat?_eq_some_iff]

/-- The value names a choice: a string, or an object whose only member is null. -/
def NamesChoice (name : String) (value : Json.Value) : Prop :=
  ∃ parts, Json.decodeParts parts = some name.toList ∧
    (value = .string parts ∨ value = .object [(parts, .null)])

theorem map_ofList_eq_some_iff {cs : Option (List Char)} {text : String} :
    cs.map String.ofList = some text ↔ cs = some text.toList := by
  rw [Option.map_eq_some_iff]
  constructor
  · rintro ⟨cs, rfl, rfl⟩
    rw [String.toList_ofList]
  · rintro rfl
    exact ⟨_, rfl, String.ofList_toList⟩

theorem choice?_eq_some_iff {value : Json.Value} {name : String} :
    value.choice? = some name ↔ NamesChoice name value := by
  unfold Json.Value.choice? NamesChoice
  split
  · simp only [map_ofList_eq_some_iff]
    simp
  · simp only [map_ofList_eq_some_iff]
    simp
  · simp_all

theorem DoubleBuildPolicy.ofName?_eq_some_iff {name : String} {policy : DoubleBuildPolicy} :
    ofName? name = some policy ↔ name = policy.name := by
  constructor
  · intro h
    rw [ofName?] at h
    have hname : policy.name = name := by simpa using List.find?_some h
    exact hname.symm
  · rintro rfl
    cases policy <;> rfl

theorem DoubleBuildPolicy.ofJson?_eq_some_iff {value : Json.Value} {policy : DoubleBuildPolicy} :
    ofJson? value = some policy ↔ NamesChoice policy.name value := by
  simp [ofJson?, Option.bind_eq_some_iff, choice?_eq_some_iff, ofName?_eq_some_iff]

/-! ### One field -/

section Fields

variable {α : Type} {read : Json.Value → Option α}

/-- The values that are given to a field fill it with `a`: there is only one and it stands for `a`, or
there is none and `a` is the default. -/
def Fills (read : Json.Value → Option α) (default : α) (values : List Json.Value) (a : α) : Prop :=
  (values = [] ∧ a = default) ∨ ∃ value, values = [value] ∧ read value = some a

/-- Taking values one after the other fills a field, or refuses the second of them. -/
theorem fills_iff {default a : α} {values : List Json.Value} :
    Fills read default values a ↔
      ∃ field, values.foldlM (fillOnce read) none = some field ∧ field.getD default = a := by
  match values with
  | [] => simp [Fills, eq_comm]
  | [value] => simp [Fills, fillOnce]
  | first :: second :: values => cases h : read first <;> simp [Fills, fillOnce, h]

theorem Fills.perm {default a : α} {values values' : List Json.Value} (hperm : values.Perm values')
    (h : Fills read default values a) : Fills read default values' a := by
  rcases h with ⟨rfl, rfl⟩ | ⟨value, rfl, hread⟩
  · exact .inl ⟨hperm.nil_eq.symm, rfl⟩
  · exact .inr ⟨value, (List.perm_singleton.mp hperm.symm), hread⟩

theorem exists_fills_iff {default : α} {values : List Json.Value} :
    (∃ a, Fills read default values a) ↔
      values.length ≤ 1 ∧ ∀ value ∈ values, ∃ a, read value = some a := by
  match values with
  | [] => simp [Fills]
  | [value] => simp [Fills]
  | first :: second :: values => simp [Fills]

theorem Fills.read_eq {default a : α} {values : List Json.Value} (h : Fills read default values a) :
    ∀ value ∈ values, read value = some a := by
  rcases h with ⟨rfl, -⟩ | ⟨value, rfl, hread⟩
  · simp
  · simpa using hread

theorem Fills.eq_default {default a : α} (h : Fills read default [] a) : a = default := by
  simpa [Fills] using h

end Fields

namespace CacheConfig

/-! ### One member after the other -/

/-- The names of the fields. -/
def fieldNames : List String := ["capacity", "double_build"]

/-- The values that the members of a name have. -/
def valuesOf (name : String) (members : List (String × Json.Value)) : List Json.Value :=
  (members.filter (·.1 = name)).map (·.2)

section Members

variable (value : Json.Value) (members : List (String × Json.Value)) (draft : Draft)

theorem valuesOf_cons_self (name : String) :
    valuesOf name ((name, value) :: members) = value :: valuesOf name members := by
  simp [valuesOf]

theorem valuesOf_cons_of_ne {name other : String} (h : other ≠ name) :
    valuesOf name ((other, value) :: members) = valuesOf name members := by
  simp [valuesOf, h]

theorem Draft.add?_capacity :
    draft.add? ("capacity", value) =
      (fillOnce capacityOfJson? draft.capacity value).map fun capacity => { draft with capacity } := by
  simp [add?]

theorem Draft.add?_doubleBuild :
    draft.add? ("double_build", value) =
      (fillOnce DoubleBuildPolicy.ofJson? draft.doubleBuild value).map
        fun doubleBuild => { draft with doubleBuild } := by
  simp [add?]

theorem Draft.add?_of_unknown {name : String} (h : name ∉ fieldNames) :
    draft.add? (name, value) = some draft := by
  simp only [fieldNames, List.mem_cons, List.not_mem_nil, or_false, not_or] at h
  simp [add?, h]

/-- Each field takes the members of its name, as if there were no others. -/
theorem foldlM_add? :
    members.foldlM Draft.add? draft =
      ((valuesOf "capacity" members).foldlM (fillOnce capacityOfJson?) draft.capacity).bind fun capacity =>
        ((valuesOf "double_build" members).foldlM (fillOnce DoubleBuildPolicy.ofJson?)
          draft.doubleBuild).map fun doubleBuild => { capacity, doubleBuild } := by
  induction members generalizing draft with
  | nil => rfl
  | cons member members ih =>
      obtain ⟨name, value⟩ := member
      rw [List.foldlM_cons]
      by_cases hcapacity : name = "capacity"
      · subst hcapacity
        rw [Draft.add?_capacity, valuesOf_cons_self, valuesOf_cons_of_ne _ _ (by decide), List.foldlM_cons]
        cases fillOnce capacityOfJson? draft.capacity value <;> simp [ih]
      by_cases hbuild : name = "double_build"
      · subst hbuild
        rw [Draft.add?_doubleBuild, valuesOf_cons_self, valuesOf_cons_of_ne _ _ (by decide),
          List.foldlM_cons]
        -- The capacities are read first on the right, but a refused policy refuses them as well.
        cases fillOnce DoubleBuildPolicy.ofJson? draft.doubleBuild value <;> simp [ih]
      · have hunknown : name ∉ fieldNames := by simp [fieldNames, hcapacity, hbuild]
        rw [Draft.add?_of_unknown _ _ hunknown, valuesOf_cons_of_ne _ _ hcapacity,
          valuesOf_cons_of_ne _ _ hbuild]
        exact ih draft

end Members

theorem ofMembers?_eq_some_iff {members : List (String × Json.Value)} {c : CacheConfig} :
    ofMembers? members = some c ↔
      Fills capacityOfJson? ({} : CacheConfig).capacity (valuesOf "capacity" members) c.capacity ∧
      Fills DoubleBuildPolicy.ofJson? ({} : CacheConfig).doubleBuild
        (valuesOf "double_build" members) c.doubleBuild := by
  simp only [ofMembers?, foldlM_add?, Option.map_eq_some_iff, Option.bind_eq_some_iff, fills_iff]
  constructor
  · rintro ⟨_, ⟨capacity, hcapacity, doubleBuild, hbuild, rfl⟩, rfl⟩
    exact ⟨⟨capacity, hcapacity, rfl⟩, ⟨doubleBuild, hbuild, rfl⟩⟩
  · rintro ⟨⟨capacity, hcapacity, hc⟩, ⟨doubleBuild, hbuild, hb⟩⟩
    exact ⟨_, ⟨capacity, hcapacity, doubleBuild, hbuild, rfl⟩, by rw [Draft.finish, hc, hb]⟩

theorem exists_ofMembers?_iff {members : List (String × Json.Value)} :
    (∃ c, ofMembers? members = some c) ↔
      (∃ n, Fills capacityOfJson? ({} : CacheConfig).capacity (valuesOf "capacity" members) n) ∧
      ∃ policy, Fills DoubleBuildPolicy.ofJson? ({} : CacheConfig).doubleBuild
        (valuesOf "double_build" members) policy := by
  simp only [ofMembers?_eq_some_iff]
  exact ⟨fun ⟨c, hc, hb⟩ => ⟨⟨_, hc⟩, ⟨_, hb⟩⟩,
    fun ⟨⟨capacity, hc⟩, ⟨doubleBuild, hb⟩⟩ => ⟨{ capacity, doubleBuild }, hc, hb⟩⟩

/-! ### Objects -/

/-- Objects that differ in the order of their members and in members of unknown names only. -/
inductive Rearranged : List (String × Json.Value) → List (String × Json.Value) → Prop where
  | reordered {members members' : List (String × Json.Value)} (h : members.Perm members') :
      Rearranged members members'
  | added {name : String} (h : name ∉ fieldNames) (value : Json.Value)
      (members : List (String × Json.Value)) : Rearranged members ((name, value) :: members)
  | symm {members members' : List (String × Json.Value)} (h : Rearranged members members') :
      Rearranged members' members
  | trans {members₁ members₂ members₃ : List (String × Json.Value)} (h : Rearranged members₁ members₂)
      (h' : Rearranged members₂ members₃) : Rearranged members₁ members₃

theorem Rearranged.valuesOf_perm {members members' : List (String × Json.Value)}
    (h : Rearranged members members') {name : String} (hname : name ∈ fieldNames) :
    (valuesOf name members).Perm (valuesOf name members') := by
  induction h with
  | reordered h => exact (h.filter _).map _
  | @added other hother value members =>
      have hne : other ≠ name := fun heq => hother (heq ▸ hname)
      rw [valuesOf_cons_of_ne _ _ hne]
  | symm _ ih => exact ih.symm
  | trans _ _ ih ih' => exact ih.trans ih'

theorem Rearranged.ofMembers?_eq {members members' : List (String × Json.Value)}
    (h : Rearranged members members') : ofMembers? members = ofMembers? members' := by
  have hcapacity : (valuesOf "capacity" members).Perm (valuesOf "capacity" members') :=
    h.valuesOf_perm (by decide)
  have hbuild : (valuesOf "double_build" members).Perm (valuesOf "double_build" members') :=
    h.valuesOf_perm (by decide)
  ext c
  rw [ofMembers?_eq_some_iff, ofMembers?_eq_some_iff]
  exact ⟨fun ⟨hc, hb⟩ => ⟨hc.perm hcapacity, hb.perm hbuild⟩,
    fun ⟨hc, hb⟩ => ⟨hc.perm hcapacity.symm, hb.perm hbuild.symm⟩⟩

/-- The text is a JSON object with these members, in this order, all of whose names are texts. -/
def IsObject (text : String) (members : List (String × Json.Value)) : Prop :=
  ∃ raw, Json.IsJson text (.object raw) ∧ (Json.Value.object raw).members? = some members

/-- It makes no difference which reader of JSON is used. -/
theorem readBy_eq {reader : String → Option Json.Value} (hreader : Json.Reads reader) :
    readBy reader = read? := by
  rw [hreader.eq_read?]
  rfl

theorem IsObject.read?_eq {text : String} {members : List (String × Json.Value)}
    (h : IsObject text members) : read? text = ofMembers? members := by
  obtain ⟨raw, hjson, hmembers⟩ := h
  rw [read?, readBy, Json.read?_eq_some_iff.mpr hjson, Option.bind_some, ofJson?, hmembers,
    Option.bind_some]

theorem members?_eq_none {raw : List (List Json.StringPart × Json.Value)}
    {member : List Json.StringPart × Json.Value} (hmember : member ∈ raw)
    (hname : Json.decodeParts member.1 = none) : (Json.Value.object raw).members? = none := by
  simp only [Json.Value.members?]
  induction raw with
  | nil => cases hmember
  | cons first raw ih =>
      rw [List.mapM_cons]
      rcases List.mem_cons.mp hmember with rfl | hmember
      · simp [hname]
      · simp [ih hmember]

/-- An object with a name that stands for no text is refused. -/
theorem read?_of_unnamed {text : String} {raw : List (List Json.StringPart × Json.Value)}
    (h : Json.IsJson text (.object raw)) {member : List Json.StringPart × Json.Value}
    (hmember : member ∈ raw) (hname : Json.decodeParts member.1 = none) : read? text = none := by
  rw [read?, readBy, Json.read?_eq_some_iff.mpr h, Option.bind_some, ofJson?,
    members?_eq_none hmember hname, Option.bind_none]

/-- Half of a pair as a name: no field is given, and the object is refused for all that. Without the member
it is the default configuration. -/
theorem read?_half_of_pair :
    Json.IsJson "\x7b\"\\ud800\":1\x7d" (.object [([.unit 0xD800], .number { whole := 1 })]) ∧
    (∀ name ∈ fieldNames, Json.decodeParts [.unit 0xD800] ≠ some name.toList) ∧
    read? "\x7b\"\\ud800\":1\x7d" = none ∧ read? "\x7b\x7d" = some {} := by
  have hjson : Json.IsJson "\x7b\"\\ud800\":1\x7d"
      (.object [([.unit 0xD800], .number { whole := 1 })]) := Json.read?_eq_some_iff.mp (by cbv)
  have hempty : Json.IsJson "\x7b\x7d" (.object []) := Json.read?_eq_some_iff.mp (by cbv)
  have hhalf : Json.decodeParts [.unit 0xD800] = none := rfl
  refine ⟨hjson, ?_, read?_of_unnamed hjson List.mem_cons_self hhalf, ?_⟩
  · simp [hhalf]
  · rw [IsObject.read?_eq ⟨[], hempty, rfl⟩]
    rfl

/-- **Configuration objects are read field by field, in any order.** With any reader of JSON, an object is a
configuration if and only if each field is given once at most, by an unsigned integer of 64 bits and by the
name of a policy. The configuration has what is given and the defaults of what is not, and an object with
the same members in another order, with or without members of other names, is read alike. -/
theorem read?_object {reader : String → Option Json.Value} (hreader : Json.Reads reader) {text : String}
    {members : List (String × Json.Value)} (h : IsObject text members) :
    ((∃ c, readBy reader text = some c) ↔
      ((valuesOf "capacity" members).length ≤ 1 ∧
        ∀ value ∈ valuesOf "capacity" members, ∃ n, value = .number { whole := n } ∧ n < 2 ^ 64) ∧
      (valuesOf "double_build" members).length ≤ 1 ∧
        ∀ value ∈ valuesOf "double_build" members, ∃ policy : DoubleBuildPolicy,
          NamesChoice policy.name value) ∧
    (∀ c, readBy reader text = some c →
      (∀ value ∈ valuesOf "capacity" members, value = .number { whole := c.capacity }) ∧
      (valuesOf "capacity" members = [] → c.capacity = ({} : CacheConfig).capacity) ∧
      (∀ value ∈ valuesOf "double_build" members, NamesChoice c.doubleBuild.name value) ∧
      (valuesOf "double_build" members = [] → c.doubleBuild = ({} : CacheConfig).doubleBuild)) ∧
    ∀ text' members', IsObject text' members' → Rearranged members members' →
      readBy reader text' = readBy reader text := by
  rw [readBy_eq hreader, h.read?_eq]
  refine ⟨?_, fun c hc => ?_, fun text' members' h' hmoved => ?_⟩
  · simp only [exists_ofMembers?_iff, exists_fills_iff, capacityOfJson?_eq_some_iff,
      DoubleBuildPolicy.ofJson?_eq_some_iff]
  · obtain ⟨hcapacity, hbuild⟩ := ofMembers?_eq_some_iff.mp hc
    refine ⟨fun value hvalue => ?_, fun hnone => ?_, fun value hvalue => ?_, fun hnone => ?_⟩
    · exact (capacityOfJson?_eq_some_iff.mp (hcapacity.read_eq value hvalue)).1
    · rw [hnone] at hcapacity
      exact hcapacity.eq_default
    · exact DoubleBuildPolicy.ofJson?_eq_some_iff.mp (hbuild.read_eq value hvalue)
    · rw [hnone] at hbuild
      exact hbuild.eq_default
  · rw [h'.read?_eq, hmoved.ofMembers?_eq]

/-- A capacity and a policy, and the same two the other way round with a note between them. -/
theorem read?_object_with_note :
    (∃ c, read? "\x7b\"double_build\": \"reject\", \"capacity\": 4\x7d" = some c) ∧
    read? "\x7b\"capacity\": 4, \"note\": [1.5e3, \x7b\"x\": null\x7d], \"double_build\": \"reject\"\x7d" =
      read? "\x7b\"double_build\": \"reject\", \"capacity\": 4\x7d" := by
  let policy : Json.Value := .string ("reject".toList.map .char)
  let capacity : Json.Value := .number { whole := 4 }
  let note : Json.Value := .array [.number ⟨false, 1, [5], some 3⟩, .object [([.char 'x'], .null)]]
  have h : IsObject "\x7b\"double_build\": \"reject\", \"capacity\": 4\x7d"
      [("double_build", policy), ("capacity", capacity)] :=
    ⟨[("double_build".toList.map .char, policy), ("capacity".toList.map .char, capacity)],
      Json.read?_eq_some_iff.mp (by cbv), by cbv⟩
  have h' : IsObject
      "\x7b\"capacity\": 4, \"note\": [1.5e3, \x7b\"x\": null\x7d], \"double_build\": \"reject\"\x7d"
      [("capacity", capacity), ("note", note), ("double_build", policy)] :=
    ⟨[("capacity".toList.map .char, capacity), ("note".toList.map .char, note),
        ("double_build".toList.map .char, policy)],
      Json.read?_eq_some_iff.mp (by cbv), by cbv⟩
  have hmoved : Rearranged [("double_build", policy), ("capacity", capacity)]
      [("capacity", capacity), ("note", note), ("double_build", policy)] :=
    (Rearranged.added (by decide) note _).trans
      (.reordered (List.perm_append_comm : ([("note", note), ("double_build", policy)] ++ _).Perm _))
  have hpolicy : NamesChoice DoubleBuildPolicy.reject.name policy := ⟨_, by cbv, .inl rfl⟩
  have hcapacity : valuesOf "capacity" [("double_build", policy), ("capacity", capacity)] = [capacity] := by
    simp [valuesOf]
  have hbuild : valuesOf "double_build" [("double_build", policy), ("capacity", capacity)] = [policy] := by
    simp [valuesOf]
  obtain ⟨hread, -, hmembers⟩ := read?_object Json.reads_read? h
  refine ⟨hread.mpr ?_, hmembers _ _ h' hmoved⟩
  rw [hcapacity, hbuild]
  simp only [List.length_singleton, Nat.le_refl, List.mem_singleton, forall_eq, true_and]
  exact ⟨⟨4, rfl, by decide⟩, .reject, hpolicy⟩

end CacheConfig

end StreetLinkage
