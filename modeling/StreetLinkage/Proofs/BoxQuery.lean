import StreetLinkage.Proofs.EnvelopeQuery
import StreetLinkage.Proofs.FixedDegrees

/-!
# Boxes in degrees lose no point

A query takes fixed-point corners, but a caller often has degrees. Converting them rounds and cuts
off, for the corners as for the points, so that a point in the box could be found outside of the
envelope, or the other way round. The first cannot happen: the conversion keeps the order of all
numbers (`floatingToFixed_mono`), hence what lies between two degrees lies between them in fixed-point
degrees (`toInt_between`), on both axes and whichever of the corners comes first.
-/

namespace StreetLinkage

/-- A number of degrees between two others, whichever is the larger one; they belong to it. What is
no number is between none, and nothing is between it and another. -/
def BetweenDegrees (a b x : Float) : Prop :=
  (a ≤ x ∧ x ≤ b) ∨ (b ≤ x ∧ x ≤ a)

instance (a b x : Float) : Decidable (BetweenDegrees a b x) :=
  inferInstanceAs (Decidable (_ ∨ _))

theorem toInt_between {a b x : Float} (h : BetweenDegrees a b x) :
    min (floatingToFixed a).toInt (floatingToFixed b).toInt ≤ (floatingToFixed x).toInt ∧
      (floatingToFixed x).toInt ≤ max (floatingToFixed a).toInt (floatingToFixed b).toInt := by
  rcases h with ⟨hax, hxb⟩ | ⟨hbx, hxa⟩
  · exact ⟨min_le_of_left_le (floatingToFixed_mono hax), le_max_of_le_right (floatingToFixed_mono hxb)⟩
  · exact ⟨min_le_of_right_le (floatingToFixed_mono hbx), le_max_of_le_left (floatingToFixed_mono hxa)⟩

namespace Position

/-- The position in fixed-point degrees. -/
def fixed (p : Position) : FixedCoord := .ofDegrees p.lat p.lon

/-- The position lies in the box between two corners, in whichever way they are opposite. -/
structure Between (a b p : Position) : Prop where
  lat : BetweenDegrees a.lat b.lat p.lat
  lon : BetweenDegrees a.lon b.lon p.lon

theorem Between.fixed {a b p : Position} (h : a.Between b p) : a.fixed.Between b.fixed p.fixed where
  lon := toInt_between h.lon
  lat := toInt_between h.lat

end Position

namespace PointSource

theorem fixedCoordinate_freeForm {points : List Position} {i : Nat} (h : i < points.length) :
    (freeForm points).fixedCoordinate i = .ok points[i].fixed := by
  have hentry : entry points i = .ok points[i] := by
    rw [entry, List.getElem?_eq_getElem h]
  rw [fixedCoordinate, fixedCoordinateBy, latBy, lon, hentry]
  rfl

end PointSource

/-- **A box in degrees loses no point.** The conversion to fixed-point degrees keeps the order of all
numbers. Hence after any run of a point set of listed positions, the query between two corners that
are given in degrees has an answer, and every position of the box is in it. -/
theorem box_query_complete {σ : Type} (f : Forest) (id : PointSetId) (points : List Position)
    (linker : Linker σ) (config : CacheConfig) (ops : List Operation) (w : World σ) :
    let q := ((PointSet.new id (PointSource.freeForm points) linker config).play f ops w).1
    (∀ x y : Float, x ≤ y → floatingToFixed x ≤ floatingToFixed y) ∧
      ∀ (a b : Position) (w' : World σ), ∃ found,
        (q.pointsInEnvelope (.ofDegrees a.lat a.lon) (.ofDegrees b.lat b.lon) w').1 = .ok found ∧
          ∀ i (h : i < points.length), a.Between b points[i] → i ∈ found := by
  intro q
  refine ⟨fun x y h => Int32.le_iff_toInt_le.mpr (floatingToFixed_mono h), ?_⟩
  intro a b w'
  have hq : Reachable f q := (Reachable.new id (PointSource.freeForm points) linker config).play ops w
  have hsource : q.source = .freeForm points := PointSet.source_play f ops _ w
  have hcount : q.featureCount = points.length := by
    rw [PointSet.featureCount, hsource]
    rfl
  have hcoord : ∀ i < q.featureCount,
      PointAccess.fixedCoordinate q.source i = .ok (points[i]?.getD a).fixed := by
    intro i hi
    rw [hcount] at hi
    rw [hsource, List.getElem?_eq_getElem hi]
    exact PointSource.fixedCoordinate_freeForm hi
  refine ⟨_, hq.pointsInEnvelope_fst hcoord _ _ w', ?_⟩
  intro i hi hbetween
  have hpoint : points[i]?.getD a = points[i] := by
    rw [List.getElem?_eq_getElem hi]
    rfl
  rw [List.mem_filter, List.mem_range, hcount, hpoint, Envelope.contains_ofCorners_iff_between]
  exact ⟨hi, hbetween.fixed⟩

/-- A box from the north-west to the south-east, open to the north, and a point on its southern side,
half a fixed unit from the equator. -/
theorem box_query_complete_on_side :
    let points : List Position := [⟨10, 20⟩, ⟨-0.00000005, -73.1⟩]
    let p := PointSet.new 7 (PointSource.freeForm points) Linker.scripted {}
    let a : Position := ⟨1 / 0, -73.2⟩
    let b : Position := ⟨-0.00000005, -73⟩
    a.Between b points[1] ∧ ∃ found,
      (p.pointsInEnvelope (.ofDegrees a.lat a.lon) (.ofDegrees b.lat b.lon) (World.withTurns [])).1 =
        .ok found ∧ 1 ∈ found := by
  intro points p a b
  have hbetween : a.Between b points[1] := ⟨by decide, by decide⟩
  obtain ⟨-, hbox⟩ := box_query_complete (Forest.ofList []) 7 points Linker.scripted {} []
    (World.withTurns [])
  obtain ⟨found, hfound, hall⟩ := hbox a b (World.withTurns [])
  exact ⟨hbetween, found, hfound, hall 1 (by decide) hbetween⟩

end StreetLinkage
