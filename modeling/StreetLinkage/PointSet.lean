import StreetLinkage.Spatial.Index
import StreetLinkage.Store.Lookup

/-!
# Point sets

A point set joins the points of an analysis, from a source of any kind, with everything derived from them:
one store of linkages and at most one spatial index. It is known by its number, which its linkages carry
as their owner.

Every operation takes the point set and the world and gives both back. Lookups and pins are those of
its store with the set as owner; the index is built at the first query and never again.
-/

namespace StreetLinkage

/-- A set of points and what is derived from them, with a linker of memory `σ` and a source of kind `ρ`. -/
structure PointSet (σ : Type) (ρ : Type := PointSource) where
  id : PointSetId
  source : ρ
  linker : Linker σ
  store : LinkageStore
  /-- The spatial index, once it has been built. -/
  index : Option SpatialIndex := none

namespace PointSet

variable {σ ρ α : Type}

/-- A point set with nothing cached. -/
def new (id : PointSetId) (source : ρ) (linker : Linker σ) (config : CacheConfig) :
    PointSet σ ρ where
  id := id
  source := source
  linker := linker
  store := { config := config }

/-- The number of points. -/
def featureCount [PointAccess ρ] (p : PointSet σ ρ) : Nat :=
  PointAccess.featureCount p.source

/-! ## Linkages -/

/-- Runs a step in the store of the point set. -/
def onStore (step : Step σ α) (p : PointSet σ ρ) (w : World σ) :
    Except LinkageError α × PointSet σ ρ × World σ :=
  match step ⟨p.store, w⟩ with
  | (result, s) => (result, { p with store := s.store }, s.world)

/-- The linkage of the point set for a key, found or built. -/
def getLinkage (f : Forest) (key : LinkageKey) (p : PointSet σ ρ) (w : World σ) :
    Except LinkageError Linkage × PointSet σ ρ × World σ :=
  p.onStore (Scene.getLinkage f p.linker p.id key) w

/-- Builds a linkage and keeps it for the life of the point set. -/
def pinLinkage (key : LinkageKey) (p : PointSet σ ρ) (w : World σ) :
    Except LinkageError Unit × PointSet σ ρ × World σ :=
  p.onStore (Scene.pinLinkage p.linker p.id key) w

/-- The cached linkage of a key; nothing is built. -/
def linkageIfPresent (key : LinkageKey) (p : PointSet σ ρ) : Option Linkage × PointSet σ ρ :=
  match p.store.get key with
  | (found, store) => (found, { p with store })

/-- The linkages that are saved with the point set. -/
def persistedLinkages (p : PointSet σ ρ) : List Linkage := p.store.persisted

/-- The counters and sizes of the store. -/
def cacheStats (p : PointSet σ ρ) : CacheStats := p.store.stats

/-! ## Points in an envelope -/

variable [PointAccess ρ]

/-- The spatial index, built if there is none yet. -/
def spatialIndex (p : PointSet σ ρ) (w : World σ) :
    Except Fault SpatialIndex × PointSet σ ρ × World σ :=
  match p.index with
  | some index => (.ok index, p, w)
  | none =>
      match SpatialIndex.build p.source with
      | .error fault => (.error fault, p, w)
      | .ok index => (.ok index, { p with index := some index }, w.emit (.indexBuilt index.length))

/-- The points in the envelope between two corners, in ascending order. -/
def pointsInEnvelope (a b : FixedCoord) (p : PointSet σ ρ) (w : World σ) :
    Except Fault (List Nat) × PointSet σ ρ × World σ :=
  match p.spatialIndex w with
  | (.error fault, p, w) => (.error fault, p, w)
  | (.ok index, p, w) => (.ok (index.query a b), p, w)

end PointSet

end StreetLinkage
