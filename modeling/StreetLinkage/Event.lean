import StreetLinkage.Linkage.Basic

/-!
# Events

What a store and a point set report while they work. An event is a fact with its data; its severity and
its wording are read off it, so nothing else in the library writes or inspects log text.
-/

namespace StreetLinkage

/-- How much an event matters; the first is the most severe. -/
inductive Severity where
  | error
  | warn
  | info
  | debug
  deriving DecidableEq, Repr

namespace Severity

/-- All severities, the most severe first. -/
def all : List Severity := [error, warn, info, debug]

/-- The name that starts a line of the log. -/
def name : Severity → String
  | error => "ERROR"
  | warn => "WARN"
  | info => "INFO"
  | debug => "DEBUG"

/-- The place among the severities, from the most severe. -/
def rank : Severity → Nat
  | error => 0
  | warn => 1
  | info => 2
  | debug => 3

end Severity

/-- A fact worth reporting. -/
inductive Event where
  /-- A linkage is looked up. -/
  | seeking (key : LinkageKey)
  /-- The lookup was answered by the pinned tier. -/
  | foundPinned (key : LinkageKey)
  /-- The lookup found nothing, so a linkage is built. -/
  | building (key : LinkageKey)
  /-- The linkage of the base network comes first. -/
  | basing (key base : LinkageKey)
  /-- A lookup gave the linkage of another point set. -/
  | foreignFound (key : LinkageKey)
  /-- The bounded tier was full and dropped an entry. -/
  | evicted (key : LinkageKey)
  /-- A linkage is to be pinned whose key is cached. -/
  | doubleBuild (key : LinkageKey)
  /-- A linkage is built to be pinned. -/
  | pinning (key : LinkageKey)
  /-- The linkage that was to be pinned belongs to another point set. -/
  | foreignBuilt (key : LinkageKey)
  /-- A linkage was pinned; its egress costs have so many origins and entries. -/
  | pinned (key : LinkageKey) (origins entries : Nat)
  /-- The spatial index was built. -/
  | indexBuilt (points : Nat)
  deriving DecidableEq, Repr

namespace Event

/-- How much the event matters. -/
def severity : Event → Severity
  | seeking _ => .debug
  | foundPinned _ => .debug
  | building _ => .info
  | basing _ _ => .info
  | foreignFound _ => .error
  | evicted _ => .warn
  | doubleBuild _ => .error
  | pinning _ => .info
  | foreignBuilt _ => .error
  | pinned _ _ _ => .info
  | indexBuilt _ => .info

/-- Is the event of the given severity or more severe? -/
def atLeast (threshold : Severity) (e : Event) : Bool :=
  e.severity.rank ≤ threshold.rank

/-- What happened. -/
def summary : Event → String
  | seeking _ => "Seeking linkage in cache"
  | foundPinned _ => "Linkage found in unevictable tier"
  | building _ => "Building linkage because it was not found in cache"
  | basing _ _ => "Basing linkage on the base network's linkage"
  | foreignFound _ =>
      "A point set should only hold linkages for itself, not for other point sets"
  | evicted _ => "Linkage cache eviction"
  | doubleBuild _ => "Unevictable linkage is being built more than once"
  | pinning _ => "Building unevictable linkage"
  | foreignBuilt _ => "Builder returned a linkage for a different point set"
  | pinned _ _ _ => "Unevictable linkage built"
  | indexBuilt _ => "Built point set spatial index"

/-- The data of the event by name. -/
def fields (f : Forest) : Event → List (String × String)
  | seeking key => [("key", key.display f)]
  | foundPinned key => [("key", key.display f)]
  | building key => [("key", key.display f)]
  | basing key base => [("key", key.display f), ("base", base.display f)]
  | foreignFound key => [("key", key.display f)]
  | evicted key => [("key", key.display f), ("cause", "Size")]
  | doubleBuild key => [("key", key.display f)]
  | pinning key => [("key", key.display f)]
  | foreignBuilt key => [("key", key.display f)]
  | pinned key origins entries =>
      [("key", key.display f), ("origins", toString origins), ("entries", toString entries)]
  | indexBuilt points => [("points", toString points)]

/-- The line of the log. -/
def line (f : Forest) (e : Event) : String :=
  let fields := (e.fields f).map fun (name, value) => name ++ "=" ++ value
  " ".intercalate (e.severity.name :: e.summary :: fields)

end Event

end StreetLinkage
