import StreetLinkage.Store.Scene

/-!
# Looking up and pinning linkages

`getLinkage` finds the linkage of a key or builds it. The linkage of a scenario copy is derived from the
linkage of its base network, which is looked up first and in the same way, so a lookup climbs the whole
chain of base networks as far as nothing is cached (`getLinkage_eq`). Whatever a lookup finds is checked
for its owner before it is handed out.

`pinLinkage` builds a linkage with its egress costs and keeps it in the pinned tier. It starts from no
base and leaves the bounded tier alone.
-/

namespace StreetLinkage.Scene

variable {σ : Type}

/-- Asks the linker for a linkage. -/
def link (L : Linker σ) (owner : PointSetId) (key : LinkageKey) (base : Option Linkage) :
    Step σ Linkage := fun s =>
  match L.link ⟨owner, s.store, key, base⟩ s.world.memory with
  | (.error e, memory) => (.error (.build key e), { s with world := { s.world with memory } })
  | (.ok l, memory) => (.ok l, { s with world := { s.world with memory } })

/-- Builds a linkage that no tier has, after that of the base network if there is one. -/
def build (L : Linker σ) (owner : PointSetId) (key : LinkageKey)
    (base : Option (LinkageKey × Step σ Linkage)) : Step σ Linkage := fun s =>
  let s := s.emit (.building key)
  match base with
  | none => link L owner key none s
  | some (baseKey, getBase) =>
      match getBase (s.emit (.basing key baseKey)) with
      | (.error e, s) => (.error e, s)
      | (.ok l, s) => link L owner key (some l) s

/-- Looks a key up, given how to look up the key of the base network. A linkage of another point set is
reported, dropped from the bounded tier and not handed out. -/
def resolve (L : Linker σ) (owner : PointSetId) (key : LinkageKey)
    (base : Option (LinkageKey × Step σ Linkage)) : Step σ Linkage := fun s =>
  match getOrTryBuild key (build L owner key base) (s.emit (.seeking key)) with
  | (.error e, s) => (.error e, s)
  | (.ok l, s) =>
      if l.belongsTo owner then (.ok l, s)
      else (.error (.invariantViolation key), (s.emit (.foreignFound key)).invalidate key)

/-- Looks up a network whose chain of base networks is given, nearest first. -/
def resolveChain (L : Linker σ) (owner : PointSetId) (mode : TravelMode) :
    Nat → List Nat → Step σ Linkage
  | n, [] => resolve L owner ⟨n, mode⟩ none
  | n, b :: rest =>
      resolve L owner ⟨n, mode⟩ (some (⟨b, mode⟩, resolveChain L owner mode b rest))

/-- The linkage of a key, found or built. -/
def getLinkage (f : Forest) (L : Linker σ) (owner : PointSetId) (key : LinkageKey) :
    Step σ Linkage :=
  resolveChain L owner key.mode key.network (f.ancestors key.network)

/-- A lookup resolves its key over a lookup of the base key. -/
theorem getLinkage_eq (f : Forest) (L : Linker σ) (owner : PointSetId) (key : LinkageKey) :
    getLinkage f L owner key =
      resolve L owner key ((key.base? f).map fun b => (b, getLinkage f L owner b)) := by
  unfold getLinkage LinkageKey.base?
  rw [f.ancestors_eq]
  cases f.base key.network <;> rfl

/-- Builds a linkage and pins it. -/
def pinLinkage (L : Linker σ) (owner : PointSetId) (key : LinkageKey) : Step σ Unit := fun s =>
  let cached := s.store.contains key
  let s := if cached then s.emit (.doubleBuild key) else s
  if cached && s.store.config.doubleBuild = .reject then (.error (.doubleBuild key), s)
  else
    match link L owner key none (s.emit (.pinning key)) with
    | (.error e, s) => (.error e, s)
    | (.ok l, s) =>
        if l.belongsTo owner then
          match s.world.egressTable L l with
          | (.error e, world) => (.error (.egressCosts key e), { s with world })
          | (.ok table, world) =>
              let s := { s with world }
              (.ok (), (s.emit (.pinned key table.originCount table.entryCount)).pin key l)
        else (.error (.invariantViolation key), s.emit (.foreignBuilt key))

end StreetLinkage.Scene
