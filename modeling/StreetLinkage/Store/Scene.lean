import StreetLinkage.Linkage.Linker
import StreetLinkage.Store.Basic

/-!
# Stores at work

A `Scene` is a store together with the world around it, and a `Step` is a process in a scene that ends
with a value or an error and leaves a scene behind in either case.

`getOrTryBuild` is the lookup that every other one is made of: the pinned tier answers, else the
bounded tier, else a given step builds the linkage. The step may look up other keys in the same store,
so entries can come and go while it runs; the new linkage is taken in only after it has ended. A step
that fails leaves nothing behind under the key.
-/

namespace StreetLinkage

/-- A store in its world. -/
structure Scene (σ : Type) where
  store : LinkageStore
  world : World σ

/-- A process in a scene. -/
abbrev Step (σ α : Type) := Scene σ → Except LinkageError α × Scene σ

namespace Scene

variable {σ : Type}

/-- Reports an event. -/
def emit (s : Scene σ) (e : Event) : Scene σ :=
  { s with world := s.world.emit e }

@[simp] theorem store_emit (s : Scene σ) (e : Event) : (s.emit e).store = s.store := rfl

@[simp] theorem memory_emit (s : Scene σ) (e : Event) :
    (s.emit e).world.memory = s.world.memory := rfl

@[simp] theorem events_emit (s : Scene σ) (e : Event) :
    (s.emit e).world.events = s.world.events ++ [e] := rfl

/-- Reports several events in order. -/
def emitAll (s : Scene σ) (events : List Event) : Scene σ :=
  { s with world := { s.world with events := s.world.events ++ events } }

/-- Counts a lookup. -/
def countLookup (s : Scene σ) : Scene σ :=
  { s with store := { s.store with lookups := s.store.lookups + 1 } }

/-- Counts an answer of the pinned tier. -/
def countPinnedHit (s : Scene σ) : Scene σ :=
  { s with store := { s.store with pinnedHits := s.store.pinnedHits + 1 } }

/-- Counts a build. -/
def countBuild (s : Scene σ) : Scene σ :=
  { s with store := { s.store with builds := s.store.builds + 1 } }

/-- Counts a use of a key in the bounded tier. -/
def touch (s : Scene σ) (key : LinkageKey) : Scene σ :=
  { s with store := s.store.touch key }

/-- Drops a key from the bounded tier. -/
def invalidate (s : Scene σ) (key : LinkageKey) : Scene σ :=
  { s with store := s.store.invalidate key }

/-- Takes a new linkage into the bounded tier and reports what it displaces. -/
def insert (s : Scene σ) (key : LinkageKey) (l : Linkage) : Scene σ :=
  let dropped := s.store.bounded.dropped s.store.config.capacity key l
  { s with store := s.store.insert key l }.emitAll (dropped.map Event.evicted)

/-- Pins a linkage. -/
def pin (s : Scene σ) (key : LinkageKey) (l : Linkage) : Scene σ :=
  { s with store := s.store.pin key l }

/-- The linkage of a key, built by the given step if neither tier has it. -/
def getOrTryBuild (key : LinkageKey) (build : Step σ Linkage) : Step σ Linkage := fun s =>
  let s := s.countLookup
  match s.store.pinned? key with
  | some l => (.ok l, s.countPinnedHit.emit (.foundPinned key))
  | none =>
      match s.store.bounded.find? key with
      | some l => (.ok l, s.touch key)
      | none =>
          match build s.countBuild with
          | (.error e, s) => (.error e, s)
          | (.ok l, s) => (.ok l, s.insert key l)

end Scene

end StreetLinkage
