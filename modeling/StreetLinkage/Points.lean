import StreetLinkage.Degrees
import StreetLinkage.Mercator.Grid

/-!
# Points

The points of a set are numbered from zero, and a source answers for their positions by number. Anything
can be a source that has an answer for each of its points (`PointAccess`).

Two kinds are at hand (`PointSource`), a list of positions and a pixel grid. A list answers for its own
numbers only. A grid computes its answers and does not compare the number with its size.
-/

namespace StreetLinkage

/-- A position in degrees. -/
structure Position where
  lat : Float
  lon : Float
  deriving DecidableEq, Repr

/-- Access to numbered points. A source may keep the positions or compute them, and is free in what it
does with numbers that none of its points has. -/
class PointAccess (ρ : Type) where
  /-- The number of points. -/
  featureCount : ρ → Nat
  /-- The latitude of a point, in degrees. -/
  lat : ρ → Nat → Except Fault Float
  /-- The longitude of a point, in degrees. -/
  lon : ρ → Nat → Except Fault Float
  /-- A point in fixed-point degrees; that of its degrees, if the source has no better way. -/
  fixedCoordinate : ρ → Nat → Except Fault FixedCoord := fun source index => do
    let lat ← lat source index
    let lon ← lon source index
    return .ofDegrees lat lon
  /-- Every point has a position. -/
  exists_fixedCoordinate : ∀ {source : ρ} {index : Nat}, index < featureCount source →
    ∃ c, fixedCoordinate source index = .ok c

/-- A list of positions or a grid. -/
inductive PointSource where
  /-- Positions in no particular layout. -/
  | freeForm (points : List Position)
  /-- The centres of a block of pixels. -/
  | grid (grid : Mercator.PixelGrid)
  deriving DecidableEq, Repr

namespace PointSource

/-- The number of points. -/
def featureCount : PointSource → Nat
  | freeForm points => points.length
  | grid g => g.featureCount

/-- The entry of a list, or the fault of reading past its end. -/
def entry (points : List Position) (index : Nat) : Except Fault Position :=
  match points[index]? with
  | some p => .ok p
  | none => .error (.indexOutOfBounds points.length index)

/-- The latitude of a point, in degrees, by the given functions. -/
def latBy (t : Mercator.InverseTrigonometry) (source : PointSource) (index : Nat) :
    Except Fault Float :=
  match source with
  | freeForm points => (entry points index).map Position.lat
  | grid g => g.latBy t index

/-- The latitude of a point, in degrees. -/
def lat (source : PointSource) (index : Nat) : Except Fault Float :=
  source.latBy .standard index

/-- The longitude of a point, in degrees. -/
def lon (source : PointSource) (index : Nat) : Except Fault Float :=
  match source with
  | freeForm points => (entry points index).map Position.lon
  | grid g => g.lon index

/-- A point in fixed-point degrees, by the given functions. -/
def fixedCoordinateBy (t : Mercator.InverseTrigonometry) (source : PointSource) (index : Nat) :
    Except Fault FixedCoord := do
  let lat ← source.latBy t index
  let lon ← source.lon index
  return .ofDegrees lat lon

/-- A point in fixed-point degrees. -/
def fixedCoordinate (source : PointSource) (index : Nat) : Except Fault FixedCoord :=
  source.fixedCoordinateBy .standard index

/-- Every point of a source has a position. -/
theorem exists_fixedCoordinateBy (t : Mercator.InverseTrigonometry) {source : PointSource}
    {index : Nat} (h : index < source.featureCount) :
    ∃ c, source.fixedCoordinateBy t index = .ok c := by
  cases source with
  | freeForm points =>
      have hlt : index < points.length := h
      have hentry : entry points index = .ok points[index] := by
        rw [entry, List.getElem?_eq_getElem hlt]
      refine ⟨.ofDegrees points[index].lat points[index].lon, ?_⟩
      rw [fixedCoordinateBy, latBy, lon, hentry]
      rfl
  | grid g =>
      obtain ⟨y, hrow, -⟩ := g.exists_row h
      obtain ⟨x, hcolumn, -⟩ := g.exists_column h
      refine ⟨.ofDegrees (Mercator.pixelCenterLatBy t y g.zoom) (Mercator.pixelCenterLon x g.zoom), ?_⟩
      rw [fixedCoordinateBy, latBy, lon, Mercator.PixelGrid.latBy, Mercator.PixelGrid.lon, hrow,
        hcolumn]
      rfl

instance : PointAccess PointSource where
  featureCount := featureCount
  lat := lat
  lon := lon
  fixedCoordinate := fixedCoordinate
  exists_fixedCoordinate := exists_fixedCoordinateBy .standard

end PointSource

end StreetLinkage
