import StreetLinkage.Store.Scene

/-!
# What the two tiers hold

Facts about a store at rest, which every proof about lookups starts from.

* `LinkageStore.held?` reads both tiers, the pinned one first: it is what a lookup answers without a
  build, and `contains` asks whether there is such an answer.
* `LinkageStore.Each` says that a property holds of each entry of both tiers. Every operation keeps it,
  except that what is taken in or pinned needs the property; `Each.insert_invalidate` is the way back
  after a linkage without it was taken in.
* `LinkageStore.OwnedBy` is the first such property: both tiers hold linkages of one point set only.

The entries of a recency list are followed by membership (`Recency.mem_touch`, `mem_erase`,
`mem_insert`): an operation never invents an entry, whatever it does to the order.
-/

namespace StreetLinkage

/-! ### Entries of a recency list -/

namespace Recency

variable {κ ν : Type} [DecidableEq κ]

theorem mem_entries_of_find? {r : Recency κ ν} {key : κ} {value : ν}
    (h : r.find? key = some value) : (key, value) ∈ r.entries := by
  obtain ⟨before, after, heq, -⟩ := List.lookup_eq_some_iff.mp h
  rw [heq]
  simp

theorem mem_keys_of_find? {r : Recency κ ν} {key : κ} {value : ν}
    (h : r.find? key = some value) : key ∈ r.keys :=
  List.mem_map_of_mem (mem_entries_of_find? h)

theorem mem_erase {r : Recency κ ν} {key : κ} {entry : κ × ν} :
    entry ∈ (r.erase key).entries ↔ entry ∈ r.entries ∧ entry.1 ≠ key := by
  simp [erase, List.mem_filter]

/-- A use moves an entry and makes none. -/
theorem mem_touch {r : Recency κ ν} {key : κ} {entry : κ × ν}
    (h : entry ∈ (r.touch key).entries) : entry ∈ r.entries := by
  unfold touch at h
  cases hfind : r.find? key with
  | none => rwa [hfind] at h
  | some value =>
      rw [hfind] at h
      rcases List.mem_cons.mp h with rfl | h
      · exact mem_entries_of_find? hfind
      · exact (mem_erase.mp h).1

/-- After an insertion each entry is the new one or an old one of another key. -/
theorem mem_insert {r : Recency κ ν} {bound : Nat} {key : κ} {value : ν} {entry : κ × ν}
    (h : entry ∈ (r.insert bound key value).entries) :
    entry = (key, value) ∨ entry ∈ r.entries := by
  unfold insert at h
  split at h
  · exact Or.inr h
  · rcases List.mem_cons.mp (List.mem_of_mem_take h) with h | h
    · exact Or.inl h
    · exact Or.inr (mem_erase.mp h).1

theorem find?_insert_eq_none {r : Recency κ ν} {bound : Nat} {key other : κ} {value : ν}
    (hne : other ≠ key) (h : r.find? other = none) : (r.insert bound key value).find? other = none := by
  rw [find?_eq_none_iff] at h ⊢
  intro hmem
  obtain ⟨entry, hentry, rfl⟩ := List.mem_map.mp hmem
  rcases mem_insert hentry with rfl | hentry
  · exact hne rfl
  · exact h (List.mem_map_of_mem hentry)

/-- With room for one entry, what was just inserted is in front. -/
theorem head?_insert {bound : Nat} (hb : bound ≠ 0) (r : Recency κ ν) (key : κ) (value : ν) :
    (r.insert bound key value).entries.head? = some (key, value) := by
  obtain ⟨n, rfl⟩ := Nat.exists_eq_succ_of_ne_zero hb
  simp [insert, push]

theorem head?_touch {r : Recency κ ν} {key : κ} {value : ν} (h : r.find? key = some value) :
    (r.touch key).entries.head? = some (key, value) := by
  simp [touch, h]

theorem find?_of_head? {r : Recency κ ν} {key : κ} {value : ν}
    (h : r.entries.head? = some (key, value)) : r.find? key = some value := by
  obtain ⟨rest, hrest⟩ := List.head?_eq_some_iff.mp h
  simp [find?, hrest]

/-- The entry in front stays while another one is inserted, if there is room for two. -/
theorem find?_insert_of_head? {r : Recency κ ν} {bound : Nat} (hb : 2 ≤ bound) {key other : κ}
    (hne : other ≠ key) {value new : ν} (h : r.entries.head? = some (other, value)) :
    (r.insert bound key new).find? other = some value := by
  obtain ⟨n, rfl⟩ := Nat.exists_eq_add_of_le hb
  obtain ⟨rest, hrest⟩ := List.head?_eq_some_iff.mp h
  have htake : (r.insert (2 + n) key new).entries =
      (key, new) :: (other, value) :: (rest.filter (·.1 ≠ key)).take n := by
    unfold insert push erase
    rw [if_neg (by omega), hrest, List.filter_cons_of_pos (by simpa using hne),
      show 2 + n = n + 1 + 1 by omega, List.take_succ_cons, List.take_succ_cons]
  unfold find?
  rw [htake, List.lookup_cons, beq_eq_false_iff_ne.mpr hne, List.lookup_cons_self]

end Recency

/-! ### The answer of a store -/

namespace LinkageStore

/-- The linkage that answers for a key without a build: the pinned one first. -/
def held? (s : LinkageStore) (key : LinkageKey) : Option Linkage :=
  (s.pinned? key).or (s.bounded.find? key)

theorem held?_of_pinned {s : LinkageStore} {key : LinkageKey} {l : Linkage}
    (h : s.pinned? key = some l) : s.held? key = some l := by
  simp [held?, h]

theorem held?_of_bounded {s : LinkageStore} {key : LinkageKey} {l : Linkage}
    (hp : s.pinned? key = none) (hb : s.bounded.find? key = some l) : s.held? key = some l := by
  simp [held?, hp, hb]

theorem held?_eq_none_iff {s : LinkageStore} {key : LinkageKey} :
    s.held? key = none ↔ s.pinned? key = none ∧ s.bounded.find? key = none :=
  Option.or_eq_none_iff

theorem contains_eq_isSome_held? (s : LinkageStore) (key : LinkageKey) :
    s.contains key = (s.held? key).isSome := by
  unfold contains held? Recency.contains
  cases s.pinned? key <;> simp

theorem contains_eq_false_iff {s : LinkageStore} {key : LinkageKey} :
    s.contains key = false ↔ s.held? key = none := by
  rw [contains_eq_isSome_held?, Option.isSome_eq_false_iff, Option.isNone_iff_eq_none]

/-- Reading a key answers what is held, whatever it does to the order. -/
theorem get_fst (s : LinkageStore) (key : LinkageKey) : (s.get key).1 = s.held? key := by
  unfold get held?
  cases s.pinned? key <;> rfl

/-- Reading a key uses it in the bounded tier, or does nothing. -/
theorem get_snd_cases (s : LinkageStore) (key : LinkageKey) :
    (s.get key).2 = s ∨ (s.get key).2 = s.touch key := by
  unfold get
  cases s.pinned? key with
  | some l => exact Or.inl rfl
  | none => exact Or.inr rfl

/-! ### What holds of each entry -/

/-- Each entry of both tiers has a property. -/
structure Each (P : LinkageKey → Linkage → Prop) (s : LinkageStore) : Prop where
  pins : ∀ entry ∈ s.pins, P entry.1 entry.2
  bounded : ∀ entry ∈ s.bounded.entries, P entry.1 entry.2

namespace Each

variable {P Q : LinkageKey → Linkage → Prop} {s : LinkageStore} {key : LinkageKey} {l : Linkage}

theorem of_pinned? (h : s.Each P) (hl : s.pinned? key = some l) : P key l :=
  h.pins (key, l) (Recency.mem_entries_of_find? (r := ⟨s.pins⟩) hl)

theorem of_find? (h : s.Each P) (hl : s.bounded.find? key = some l) : P key l :=
  h.bounded (key, l) (Recency.mem_entries_of_find? hl)

theorem imp (h : s.Each P) (hPQ : ∀ key l, P key l → Q key l) : s.Each Q :=
  ⟨fun entry hentry => hPQ _ _ (h.pins entry hentry),
    fun entry hentry => hPQ _ _ (h.bounded entry hentry)⟩

/-- The counters have no part in it. -/
theorem congr {t : LinkageStore} (h : s.Each P) (hp : t.pins = s.pins)
    (hb : t.bounded = s.bounded) : t.Each P :=
  ⟨hp ▸ h.pins, hb ▸ h.bounded⟩

theorem touch (h : s.Each P) (key : LinkageKey) : (s.touch key).Each P :=
  ⟨h.pins, fun entry hentry => h.bounded entry (Recency.mem_touch hentry)⟩

theorem insert (h : s.Each P) (hl : P key l) : (s.insert key l).Each P := by
  refine ⟨h.pins, fun entry hentry => ?_⟩
  rcases Recency.mem_insert hentry with rfl | hentry
  · exact hl
  · exact h.bounded entry hentry

theorem pin (h : s.Each P) (hl : P key l) : (s.pin key l).Each P := by
  refine ⟨fun entry hentry => ?_, h.bounded⟩
  rcases List.mem_cons.mp hentry with rfl | hentry
  · exact hl
  · exact h.pins entry (List.mem_filter.mp hentry).1

/-- **The way back.** Whatever linkage was taken in under a key, dropping the key leaves only entries
that were there before: what the new one displaced is gone, and so is the new one. -/
theorem insert_invalidate (h : s.Each P) (key : LinkageKey) (l : Linkage) :
    ((s.insert key l).invalidate key).Each P := by
  refine ⟨h.pins, fun entry hentry => ?_⟩
  obtain ⟨hentry, hne⟩ := Recency.mem_erase.mp hentry
  rcases Recency.mem_insert hentry with rfl | hentry
  · exact absurd rfl hne
  · exact h.bounded entry hentry

end Each

/-! ### Tiers of one owner -/

/-- Both tiers hold linkages of the given point set only. -/
structure OwnedBy (s : LinkageStore) (owner : PointSetId) : Prop where
  pins : ∀ entry ∈ s.pins, entry.2.belongsTo owner = true
  bounded : ∀ entry ∈ s.bounded.entries, entry.2.belongsTo owner = true

namespace OwnedBy

variable {s : LinkageStore} {owner : PointSetId} {key : LinkageKey} {l : Linkage}

theorem each (h : s.OwnedBy owner) : s.Each fun _ l => l.belongsTo owner = true :=
  ⟨h.pins, h.bounded⟩

theorem of_each (h : s.Each fun _ l => l.belongsTo owner = true) : s.OwnedBy owner :=
  ⟨h.pins, h.bounded⟩

theorem of_pinned? (h : s.OwnedBy owner) (hl : s.pinned? key = some l) :
    l.belongsTo owner = true :=
  h.each.of_pinned? hl

theorem of_find? (h : s.OwnedBy owner) (hl : s.bounded.find? key = some l) :
    l.belongsTo owner = true :=
  h.each.of_find? hl

theorem of_held? (h : s.OwnedBy owner) (hl : s.held? key = some l) : l.belongsTo owner = true := by
  rcases Option.or_eq_some_iff.mp hl with hp | ⟨-, hb⟩
  · exact h.of_pinned? hp
  · exact h.of_find? hb

/-- The counters have no part in ownership. -/
theorem congr {t : LinkageStore} (h : s.OwnedBy owner) (hp : t.pins = s.pins)
    (hb : t.bounded = s.bounded) : t.OwnedBy owner :=
  of_each (h.each.congr hp hb)

theorem touch (h : s.OwnedBy owner) (key : LinkageKey) : (s.touch key).OwnedBy owner :=
  of_each (h.each.touch key)

theorem insert (h : s.OwnedBy owner) (key : LinkageKey) (hl : l.belongsTo owner = true) :
    (s.insert key l).OwnedBy owner :=
  of_each (h.each.insert hl)

theorem pin (h : s.OwnedBy owner) (key : LinkageKey) (hl : l.belongsTo owner = true) :
    (s.pin key l).OwnedBy owner :=
  of_each (h.each.pin hl)

/-- A foreign linkage that was taken in is gone when its key is dropped. -/
theorem insert_invalidate (h : s.OwnedBy owner) (key : LinkageKey) (l : Linkage) :
    ((s.insert key l).invalidate key).OwnedBy owner :=
  of_each (h.each.insert_invalidate key l)

end OwnedBy

end LinkageStore

end StreetLinkage
