import StreetLinkage.Points
import StreetLinkage.Spatial.Tree

/-!
# Spatial index

The index of a point source answers which points lie in an envelope, by number and in ascending
order. It is built once from all points and does not change.
-/

namespace StreetLinkage

/-- An index of points by position. -/
structure SpatialIndex (τ : Type := Spatial.Tree) where
  tree : τ

namespace SpatialIndex

/-- The entry of a point. -/
def entry (coord : Nat → Except Fault FixedCoord) (index : Nat) : Except Fault Spatial.Entry := do
  return ⟨← coord index, index⟩

section Searching

variable {τ : Type} [Spatial.SearchTree τ]

/-- The index of a number of points, if each of them has a position. -/
def ofPoints (count : Nat) (coord : Nat → Except Fault FixedCoord) :
    Except Fault (SpatialIndex τ) := do
  return ⟨Spatial.SearchTree.ofList (← (List.range count).mapM (entry coord))⟩

/-- The number of points. -/
def length (s : SpatialIndex τ) : Nat := Spatial.SearchTree.size s.tree

/-- Has the index no points? -/
def isEmpty (s : SpatialIndex τ) : Bool := s.length == 0

/-- The points in the envelope between two corners, in ascending order. -/
def query (s : SpatialIndex τ) (a b : FixedCoord) : List Nat :=
  ((Spatial.SearchTree.within (.ofCorners a b) s.tree).map Spatial.Entry.index).mergeSort

end Searching

/-- The index of a list or a grid, the positions by the given functions. -/
def buildBy (t : Mercator.InverseTrigonometry) (source : PointSource) : Except Fault SpatialIndex :=
  ofPoints source.featureCount (source.fixedCoordinateBy t)

/-- The index of all points of a source. -/
def build {ρ : Type} [PointAccess ρ] (source : ρ) : Except Fault SpatialIndex :=
  ofPoints (PointAccess.featureCount source) (PointAccess.fixedCoordinate source)

end SpatialIndex

end StreetLinkage
