/-!
# Bounded lists in order of use

A recency list holds values by key, the one that was used last in front. Looking at it (`find?`) does not
count as use; `touch` moves an entry to the front, and `insert` puts a new entry there and drops entries
from the back until there are no more than the bound. A bound of zero takes in nothing.

These are the laws of a cache that drops what was used longest ago (`LruCache`), and a recency list is the
plainest one.
-/

namespace StreetLinkage

/-- Entries by key, the most recently used first. -/
structure Recency (κ ν : Type) where
  entries : List (κ × ν) := []

namespace Recency

variable {κ ν : Type}

/-- The keys, the most recently used first. -/
def keys (r : Recency κ ν) : List κ := r.entries.map Prod.fst

/-- The number of entries. -/
def size (r : Recency κ ν) : Nat := r.entries.length

theorem size_eq_length_keys (r : Recency κ ν) : r.size = r.keys.length := by
  simp [size, keys]

variable [DecidableEq κ]

/-- The value of a key. -/
def find? (r : Recency κ ν) (key : κ) : Option ν := r.entries.lookup key

/-- Is there an entry for the key? -/
def contains (r : Recency κ ν) (key : κ) : Bool := (r.find? key).isSome

/-- The list without the key. -/
def erase (r : Recency κ ν) (key : κ) : Recency κ ν where
  entries := r.entries.filter (·.1 ≠ key)

/-- Counts a use of the key: its entry, if there is one, moves to the front. -/
def touch (r : Recency κ ν) (key : κ) : Recency κ ν :=
  match r.find? key with
  | some value => { entries := (key, value) :: (r.erase key).entries }
  | none => r

/-- The entries with a new one in front, before any is dropped. -/
def push (r : Recency κ ν) (key : κ) (value : ν) : Recency κ ν where
  entries := (key, value) :: (r.erase key).entries

/-- The list with a new entry, held to the bound. -/
def insert (r : Recency κ ν) (bound : Nat) (key : κ) (value : ν) : Recency κ ν :=
  if bound = 0 then r else { entries := (r.push key value).entries.take bound }

/-- The keys that `insert` drops, in the order in which they go. -/
def dropped (r : Recency κ ν) (bound : Nat) (key : κ) (value : ν) : List κ :=
  if bound = 0 then [] else (((r.push key value).entries.drop bound).map Prod.fst).reverse

/-! ## The view by key -/

theorem lookup_filter_ne (entries : List (κ × ν)) (key other : κ) :
    (entries.filter (·.1 ≠ key)).lookup other =
      if other = key then none else entries.lookup other := by
  induction entries with
  | nil => simp
  | cons entry rest ih =>
      obtain ⟨k, value⟩ := entry
      by_cases hk : k = key
      · subst hk
        rw [List.filter_cons_of_neg (by simp), ih, List.lookup_cons]
        by_cases ho : other = k
        · simp [ho]
        · rw [if_neg ho, if_neg ho, beq_eq_false_iff_ne.mpr ho]
      · rw [List.filter_cons_of_pos (by simpa using hk), List.lookup_cons, List.lookup_cons, ih]
        by_cases ho : other = k
        · subst ho
          simp [hk]
        · rw [beq_eq_false_iff_ne.mpr ho]

theorem find?_erase (r : Recency κ ν) (key other : κ) :
    (r.erase key).find? other = if other = key then none else r.find? other :=
  lookup_filter_ne r.entries key other

theorem find?_push (r : Recency κ ν) (key other : κ) (value : ν) :
    (r.push key value).find? other = if other = key then some value else r.find? other := by
  unfold push find?
  rw [List.lookup_cons]
  by_cases h : other = key
  · simp [h]
  · rw [beq_eq_false_iff_ne.mpr h, if_neg h]
    exact (find?_erase r key other).trans (if_neg h)

/-- A use changes the order and nothing else. -/
theorem find?_touch (r : Recency κ ν) (key other : κ) :
    (r.touch key).find? other = r.find? other := by
  unfold touch
  cases h : r.find? key with
  | none => rfl
  | some value =>
      refine (find?_push r key other value).trans ?_
      by_cases ho : other = key
      · rw [if_pos ho, ho, h]
      · rw [if_neg ho]

theorem find?_eq_none_iff {r : Recency κ ν} {key : κ} : r.find? key = none ↔ key ∉ r.keys := by
  unfold find? keys
  rw [List.lookup_eq_none_iff]
  simp only [bne_iff_ne, ne_eq, List.mem_map, not_exists, not_and]
  exact ⟨fun h entry he hk => h entry he hk.symm, fun h entry he hk => h entry he hk.symm⟩

theorem contains_iff_mem_keys {r : Recency κ ν} {key : κ} :
    r.contains key = true ↔ key ∈ r.keys := by
  unfold contains
  rw [Option.isSome_iff_ne_none, ne_eq, find?_eq_none_iff, Classical.not_not]

/-! ## Order and size -/

theorem keys_erase (r : Recency κ ν) (key : κ) :
    (r.erase key).keys = r.keys.filter (· ≠ key) := by
  unfold keys erase
  rw [List.filter_map]
  rfl

theorem keys_push (r : Recency κ ν) (key : κ) (value : ν) :
    (r.push key value).keys = key :: r.keys.filter (· ≠ key) :=
  congrArg (key :: ·) (keys_erase r key)

/-- A use moves the key to the front. -/
theorem keys_touch (r : Recency κ ν) (key : κ) :
    (r.touch key).keys = if key ∈ r.keys then key :: r.keys.filter (· ≠ key) else r.keys := by
  unfold touch
  cases h : r.find? key with
  | none => rw [if_neg (find?_eq_none_iff.mp h)]
  | some value =>
      have hmem : key ∈ r.keys := contains_iff_mem_keys.mp (by simp [contains, h])
      rw [if_pos hmem]
      exact keys_push r key value

/-- A new entry goes to the front, and the last ones go as far as the bound asks. -/
theorem keys_insert (r : Recency κ ν) (bound : Nat) (key : κ) (value : ν) :
    (r.insert bound key value).keys =
      if bound = 0 then r.keys else (key :: r.keys.filter (· ≠ key)).take bound := by
  unfold insert
  split
  · rfl
  · rw [← keys_push r key value]
    exact List.map_take

/-- The keys that go are those behind the bound, the last one first. -/
theorem dropped_eq (r : Recency κ ν) (bound : Nat) (key : κ) (value : ν) :
    r.dropped bound key value =
      if bound = 0 then [] else ((key :: r.keys.filter (· ≠ key)).drop bound).reverse := by
  unfold dropped
  split
  · rfl
  · rw [List.map_drop, ← keys_push r key value]
    rfl

/-- What stays and what is dropped is the list with the new entry in front. -/
theorem keys_insert_append_dropped {bound : Nat} (hb : bound ≠ 0) (r : Recency κ ν) (key : κ)
    (value : ν) :
    (r.insert bound key value).keys ++ (r.dropped bound key value).reverse =
      key :: r.keys.filter (· ≠ key) := by
  rw [keys_insert, if_neg hb, dropped_eq, if_neg hb, List.reverse_reverse, List.take_append_drop]

/-- What is still there after an insertion has the value that it had before any entry was dropped. -/
theorem find?_insert_of_mem {r : Recency κ ν} {bound : Nat} (hb : bound ≠ 0) {key other : κ} {value : ν}
    (h : other ∈ (r.insert bound key value).keys) :
    (r.insert bound key value).find? other = (r.push key value).find? other := by
  obtain ⟨found, hfound⟩ := Option.isSome_iff_exists.mp (contains_iff_mem_keys.mpr h)
  have hentries : (r.insert bound key value).entries = (r.push key value).entries.take bound := by
    rw [insert, if_neg hb]
  have hwhole : (r.push key value).find? other = some found := by
    rw [find?, ← List.take_append_drop bound (r.push key value).entries, List.lookup_append, ← hentries]
    exact Option.or_eq_some_iff.mpr (.inl hfound)
  rw [hfound, hwhole]

theorem nodup_keys_push {r : Recency κ ν} (h : r.keys.Nodup) (key : κ) (value : ν) :
    (r.push key value).keys.Nodup := by
  rw [keys_push]
  exact List.nodup_cons.mpr ⟨by simp, h.filter _⟩

theorem nodup_keys_touch {r : Recency κ ν} (h : r.keys.Nodup) (key : κ) :
    (r.touch key).keys.Nodup := by
  rw [keys_touch]
  split
  · exact List.nodup_cons.mpr ⟨by simp, h.filter _⟩
  · exact h

theorem nodup_keys_insert {r : Recency κ ν} (h : r.keys.Nodup) (bound : Nat) (key : κ) (value : ν) :
    (r.insert bound key value).keys.Nodup := by
  rw [keys_insert]
  split
  · exact h
  · rw [← keys_push r key value]
    exact (nodup_keys_push h key value).sublist (List.take_sublist _ _)

end Recency

/-! ## Caches that drop what was used longest ago -/

/-- A cache that drops what was used longest ago. It is known by the order in which its keys were used and
by the values that it finds, and the laws say what becomes of these. -/
class LruCache (γ : Type) (κ ν : outParam Type) [DecidableEq κ] where
  /-- The cache with nothing in it. -/
  empty : γ
  /-- The keys, the most recently used first. -/
  keys : γ → List κ
  /-- The number of entries. -/
  size : γ → Nat
  /-- The value of a key. Asking for it is no use. -/
  find? : γ → κ → Option ν
  /-- Counts a use of a key. -/
  touch : γ → κ → γ
  /-- Takes in a new entry and holds the cache to the bound. -/
  insert : γ → Nat → κ → ν → γ
  /-- The keys that `insert` drops, in the order in which they go. -/
  dropped : γ → Nat → κ → ν → List κ
  /-- The cache without a key. -/
  erase : γ → κ → γ
  keys_empty : keys empty = []
  size_eq : ∀ c, size c = (keys c).length
  find?_eq_none_iff : ∀ {c key}, find? c key = none ↔ key ∉ keys c
  keys_touch : ∀ c key,
    keys (touch c key) = if key ∈ keys c then key :: (keys c).filter (· ≠ key) else keys c
  find?_touch : ∀ c key other, find? (touch c key) other = find? c other
  keys_insert : ∀ c bound key value, keys (insert c bound key value) =
    if bound = 0 then keys c else (key :: (keys c).filter (· ≠ key)).take bound
  find?_insert : ∀ {c bound key value other}, other ∈ keys (insert c bound key value) →
    find? (insert c bound key value) other =
      if bound ≠ 0 ∧ other = key then some value else find? c other
  dropped_eq : ∀ c bound key value, dropped c bound key value =
    if bound = 0 then [] else ((key :: (keys c).filter (· ≠ key)).drop bound).reverse
  keys_erase : ∀ c key, keys (erase c key) = (keys c).filter (· ≠ key)
  find?_erase : ∀ {c key other}, other ≠ key → find? (erase c key) other = find? c other

instance {κ ν : Type} [DecidableEq κ] : LruCache (Recency κ ν) κ ν where
  empty := {}
  keys := Recency.keys
  size := Recency.size
  find? := Recency.find?
  touch := Recency.touch
  insert := Recency.insert
  dropped := Recency.dropped
  erase := Recency.erase
  keys_empty := rfl
  size_eq := Recency.size_eq_length_keys
  find?_eq_none_iff := Recency.find?_eq_none_iff
  keys_touch := Recency.keys_touch
  find?_touch := Recency.find?_touch
  keys_insert := Recency.keys_insert
  find?_insert := by
    intro r bound key value other h
    by_cases hb : bound = 0
    · rw [if_neg (by simp [hb]), Recency.insert, if_pos hb]
    · rw [Recency.find?_insert_of_mem hb h, Recency.find?_push]
      simp [hb]
  dropped_eq := Recency.dropped_eq
  keys_erase := Recency.keys_erase
  find?_erase := by
    intro r key other hne
    rw [Recency.find?_erase, if_neg hne]

end StreetLinkage
