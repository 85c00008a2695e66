import StreetLinkage.Linkage.Basic
import StreetLinkage.Store.Config
import StreetLinkage.Store.Recency

/-!
# Linkage stores

A store keeps the linkages of one point set in two tiers. Pinned linkages stay for ever and are what is
saved with the point set; all others share a bounded tier, which drops what was used longest ago. A key
may be in both tiers, and then the pinned linkage answers.

This module holds the store as a value and its small operations. A lookup that builds what is missing
is a process with effects beyond the store and lives in `StreetLinkage.Store.Scene`.
-/

namespace StreetLinkage

/-- The counters and sizes of a store at one moment. -/
structure CacheStats where
  lookups : Nat := 0
  /-- Lookups answered by the pinned tier. -/
  pinnedHits : Nat := 0
  /-- Builds that a lookup started. -/
  builds : Nat := 0
  evictions : Nat := 0
  pinnedEntries : Nat := 0
  boundedEntries : Nat := 0
  deriving DecidableEq, Repr

/-- The counters in one line. -/
def CacheStats.display (s : CacheStats) : String :=
  let lookups := s.lookups
  let builds := s.builds
  let evictions := s.evictions
  let pinned := s.pinnedEntries
  let cached := s.boundedEntries
  s!"linkages: {lookups} lookups, {builds} builds, {evictions} evictions " ++
    s!"({pinned} unevictable, {cached} cached)"

/-- The linkages of a point set, and what happened to them so far. The counters have no bound; words of 64
bits would count the same until one of them has seen `2 ^ 64` events and starts again. -/
structure LinkageStore where
  config : CacheConfig := {}
  /-- The pinned tier: the linkage of each pinned key. -/
  pins : List (LinkageKey × Linkage) := []
  /-- The bounded tier. Any other `LruCache` would serve the store in the same way. -/
  bounded : Recency LinkageKey Linkage := {}
  lookups : Nat := 0
  pinnedHits : Nat := 0
  builds : Nat := 0
  evictions : Nat := 0

namespace LinkageStore

/-- The pinned linkage of a key. -/
def pinned? (s : LinkageStore) (key : LinkageKey) : Option Linkage :=
  s.pins.lookup key

/-- Is the key in either tier? Asking does not count as use. -/
def contains (s : LinkageStore) (key : LinkageKey) : Bool :=
  (s.pinned? key).isSome || s.bounded.contains key

/-- Pins a linkage, in place of the one pinned before under its key. -/
def pin (s : LinkageStore) (key : LinkageKey) (l : Linkage) : LinkageStore :=
  { s with pins := (key, l) :: s.pins.filter (·.1 ≠ key) }

theorem pinned?_pin (s : LinkageStore) (key other : LinkageKey) (l : Linkage) :
    (s.pin key l).pinned? other = if other = key then some l else s.pinned? other :=
  Recency.find?_push ⟨s.pins⟩ key other l

/-- Drops a key from the bounded tier. -/
def invalidate (s : LinkageStore) (key : LinkageKey) : LinkageStore :=
  { s with bounded := s.bounded.erase key }

/-- Counts a use of a key in the bounded tier. -/
def touch (s : LinkageStore) (key : LinkageKey) : LinkageStore :=
  { s with bounded := s.bounded.touch key }

/-- Takes a new linkage into the bounded tier and counts what it displaces. -/
def insert (s : LinkageStore) (key : LinkageKey) (l : Linkage) : LinkageStore :=
  { s with
    bounded := s.bounded.insert s.config.capacity key l
    evictions := s.evictions + (s.bounded.dropped s.config.capacity key l).length }

/-- The cached linkage of a key, the pinned one first. An answer of the bounded tier counts as use. -/
def get (s : LinkageStore) (key : LinkageKey) : Option Linkage × LinkageStore :=
  match s.pinned? key with
  | some l => (some l, s)
  | none => (s.bounded.find? key, s.touch key)

/-- The pinned linkages. -/
def persisted (s : LinkageStore) : List Linkage :=
  s.pins.map Prod.snd

/-- The counters and sizes now. -/
def stats (s : LinkageStore) : CacheStats where
  lookups := s.lookups
  pinnedHits := s.pinnedHits
  builds := s.builds
  evictions := s.evictions
  pinnedEntries := s.pins.length
  boundedEntries := s.bounded.size

end LinkageStore

end StreetLinkage
