import StreetLinkage.Network

/-!
# Linkages

A linkage is the connection of one point set to one network for one mode. It is a value that never
changes: its number tells it from every other linkage, and it remembers the linkage of the base
network that it was derived from, whatever happens to that one later.
-/

namespace StreetLinkage

/-- The number of a point set. -/
abbrev PointSetId := Nat

/-- What is known of a linkage apart from its base. -/
structure LinkageInfo where
  /-- The number of the linkage. -/
  id : Nat
  /-- The point set that it was made for. -/
  owner : PointSetId
  key : LinkageKey
  /-- How many points were linked. -/
  linkedPoints : Nat
  deriving DecidableEq, Repr

/-- A linkage, made from nothing or derived from the linkage of a base network. -/
inductive Linkage where
  | fresh (info : LinkageInfo)
  | derived (info : LinkageInfo) (base : Linkage)
  deriving DecidableEq, Repr

namespace Linkage

/-- The linkage with the given base, if any. -/
def make (info : LinkageInfo) : Option Linkage → Linkage
  | none => fresh info
  | some base => derived info base

/-- What is known of the linkage itself. -/
def info : Linkage → LinkageInfo
  | fresh info => info
  | derived info _ => info

/-- The linkage that this one was derived from. -/
def base? : Linkage → Option Linkage
  | fresh _ => none
  | derived _ base => some base

/-- The number of the linkage. -/
def id (l : Linkage) : Nat := l.info.id

/-- The point set that the linkage was made for. -/
def owner (l : Linkage) : PointSetId := l.info.owner

/-- The network and the mode that are linked. -/
def key (l : Linkage) : LinkageKey := l.info.key

/-- How many points were linked. -/
def linkedPoints (l : Linkage) : Nat := l.info.linkedPoints

/-- Was the linkage made for this point set? -/
def belongsTo (l : Linkage) (set : PointSetId) : Bool := l.owner == set

/-- The linkage, its base, the base of that and so on. -/
def lineage : Linkage → List Linkage
  | fresh info => [fresh info]
  | derived info base => derived info base :: base.lineage

@[simp] theorem info_make (info : LinkageInfo) (base : Option Linkage) :
    (make info base).info = info := by
  cases base <;> rfl

@[simp] theorem base?_make (info : LinkageInfo) (base : Option Linkage) :
    (make info base).base? = base := by
  cases base <;> rfl

theorem lineage_of_fresh {l : Linkage} (h : l.base? = none) : l.lineage = [l] := by
  cases l with
  | fresh info => rfl
  | derived info base => cases h

theorem lineage_of_derived {l m : Linkage} (h : l.base? = some m) :
    l.lineage = l :: m.lineage := by
  cases l with
  | fresh info => cases h
  | derived info base =>
      cases h
      rfl

@[simp] theorem belongsTo_iff {l : Linkage} {set : PointSetId} :
    l.belongsTo set = true ↔ l.owner = set :=
  beq_iff_eq

end Linkage

end StreetLinkage
