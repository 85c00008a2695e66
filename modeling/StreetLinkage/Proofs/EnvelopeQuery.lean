import Mathlib.Data.List.Sort
import StreetLinkage.Proofs.Run

/-!
# Queries of the spatial index are exact

A query answers which points lie between two corners. What it should answer is said here without a tree
and without an envelope: the numbers of the points whose coordinates lie between those of the corners over
the integers (`FixedCoord.Between`), in ascending order and each once (`SpatialIndex.Exact`).

An index knows of its source only how many points there are and where each of them is, so the index of any
source is `SpatialIndex.ofFn` of a number and a function. `exact_ofFn` is about these, whatever structure
is searched; `build_eq` says that every source is one of them, and `Reachable.indexed` that a point set
never has any other index than that of its source, whatever else is done with it.
-/

namespace StreetLinkage

/-! ### Between two corners -/

namespace FixedCoord

/-- Each coordinate of the position lies between those of the corners, the ends included. -/
structure Between (a b c : FixedCoord) : Prop where
  lon : min a.lon.toInt b.lon.toInt ≤ c.lon.toInt ∧ c.lon.toInt ≤ max a.lon.toInt b.lon.toInt
  lat : min a.lat.toInt b.lat.toInt ≤ c.lat.toInt ∧ c.lat.toInt ≤ max a.lat.toInt b.lat.toInt

variable {a b c : FixedCoord}

theorem between_comm : b.Between a c ↔ a.Between b c := by
  constructor <;> rintro ⟨hlon, hlat⟩ <;> constructor <;>
    rwa [min_comm, max_comm]

/-- Only the longitudes of the corners change places. -/
theorem between_comm_lon :
    Between ⟨b.lon, a.lat⟩ ⟨a.lon, b.lat⟩ c ↔ a.Between b c := by
  constructor <;> rintro ⟨hlon, hlat⟩ <;> refine ⟨?_, hlat⟩ <;> rwa [min_comm, max_comm]

/-- Only the latitudes of the corners change places. -/
theorem between_comm_lat :
    Between ⟨a.lon, b.lat⟩ ⟨b.lon, a.lat⟩ c ↔ a.Between b c :=
  between_comm_lon.trans between_comm

/-- Between a position and itself there is no other one. -/
theorem between_self_iff : a.Between a c ↔ c = a := by
  constructor
  · rintro ⟨hlon, hlat⟩
    rw [min_self, max_self] at hlon hlat
    have hlon' : c.lon = a.lon := Int32.toInt_inj.mp (by omega)
    have hlat' : c.lat = a.lat := Int32.toInt_inj.mp (by omega)
    cases a
    cases c
    rw [mk.injEq]
    exact ⟨hlon', hlat'⟩
  · rintro rfl
    constructor <;> simp

end FixedCoord

theorem Envelope.contains_ofCorners_iff_between {a b c : FixedCoord} :
    (ofCorners a b).contains c = true ↔ a.Between b c := by
  rw [contains_ofCorners_iff]
  simp only [Int32.le_iff_toInt_le, toInt_min, toInt_max]
  exact ⟨fun ⟨hlon, hlat⟩ => ⟨hlon, hlat⟩, fun ⟨hlon, hlat⟩ => ⟨hlon, hlat⟩⟩

/-! ### The index of a number of points -/

namespace SpatialIndex

open Spatial (SearchTree)

section Searching

variable {τ : Type} [SearchTree τ]

/-- The index of `n` points, the positions of which are given by number. -/
def ofFn (n : Nat) (coord : Nat → FixedCoord) : SpatialIndex τ :=
  ⟨SearchTree.ofList ((List.range n).map fun i => ⟨coord i, i⟩)⟩

/-- The index has `n` points, and every query is answered as their positions ask, however its corners are
given. -/
structure Exact (index : SpatialIndex τ) (n : Nat) (coord : Nat → FixedCoord) : Prop where
  length_eq : index.length = n
  /-- Ascending, so that no point is there twice. -/
  ascending : ∀ a b, (index.query a b).Pairwise (· < ·)
  mem_query : ∀ a b i, i ∈ index.query a b ↔ i < n ∧ a.Between b (coord i)
  query_comm : ∀ a b, index.query b a = index.query a b
  query_comm_lon : ∀ a b : FixedCoord,
    index.query ⟨b.lon, a.lat⟩ ⟨a.lon, b.lat⟩ = index.query a b
  query_comm_lat : ∀ a b : FixedCoord,
    index.query ⟨a.lon, b.lat⟩ ⟨b.lon, a.lat⟩ = index.query a b

variable {n : Nat} {coord : Nat → FixedCoord}

/-- **Searching is testing every point.** Neither the structure that is searched nor what a search leaves
out can be seen in the answer, as the points found are sorted in the end. -/
theorem query_ofFn (n : Nat) (coord : Nat → FixedCoord) (a b : FixedCoord) :
    (ofFn n coord : SpatialIndex τ).query a b =
      (List.range n).filter fun i => (Envelope.ofCorners a b).contains (coord i) := by
  set entries : List Spatial.Entry := (List.range n).map fun i => ⟨coord i, i⟩ with hentries
  set inside : Nat → Bool := fun i => (Envelope.ofCorners a b).contains (coord i)
  have hfound : List.Perm
      ((SearchTree.within (.ofCorners a b) (SearchTree.ofList entries : τ)).map Spatial.Entry.index)
      ((List.range n).filter inside) := by
    have hperm := (SearchTree.within_ofList (τ := τ) (.ofCorners a b) entries).map Spatial.Entry.index
    refine hperm.trans (List.Perm.of_eq ?_)
    rw [hentries, List.filter_map, List.map_map]
    exact List.map_id _
  -- Both sides are in ascending order, so it is enough that they have the same members.
  have hanswer : ((ofFn n coord : SpatialIndex τ).query a b).Pairwise (· ≤ ·) :=
    List.pairwise_mergeSort' (· ≤ ·) _
  have hplain : ((List.range n).filter inside).Pairwise (· ≤ ·) :=
    (List.pairwise_lt_range.imp Nat.le_of_lt).filter inside
  exact List.Perm.eq_of_pairwise (fun i j _ _ => Nat.le_antisymm) hanswer hplain
    ((List.mergeSort_perm _ _).trans hfound)

/-- Corners with the same positions between them have the same answer. -/
theorem query_ofFn_congr {a b c d : FixedCoord} (h : ∀ x, a.Between b x ↔ c.Between d x) :
    (ofFn n coord : SpatialIndex τ).query a b = (ofFn n coord : SpatialIndex τ).query c d := by
  rw [query_ofFn, query_ofFn]
  refine List.filter_congr fun i _ => Bool.eq_iff_iff.mpr ?_
  rw [Envelope.contains_ofCorners_iff_between, Envelope.contains_ofCorners_iff_between, h]

/-- A query for one position finds all points that are there. -/
theorem query_ofFn_self (n : Nat) (coord : Nat → FixedCoord) (c : FixedCoord) :
    (ofFn n coord : SpatialIndex τ).query c c = (List.range n).filter fun i => coord i = c := by
  rw [query_ofFn]
  refine List.filter_congr fun i _ => ?_
  rw [Bool.eq_iff_iff, Envelope.contains_ofCorners_iff_between, FixedCoord.between_self_iff,
    decide_eq_true_iff]

/-- The index of any positions is exact, be they apart or all in one place. -/
theorem exact_ofFn (n : Nat) (coord : Nat → FixedCoord) :
    (ofFn n coord : SpatialIndex τ).Exact n coord where
  length_eq := by
    rw [length, ofFn, SearchTree.size_ofList, List.length_map, List.length_range]
  ascending a b := by
    rw [query_ofFn]
    exact List.pairwise_lt_range.filter _
  mem_query a b i := by
    rw [query_ofFn, List.mem_filter, List.mem_range, Envelope.contains_ofCorners_iff_between]
  query_comm a b := query_ofFn_congr fun _ => FixedCoord.between_comm
  query_comm_lon a b := query_ofFn_congr fun _ => FixedCoord.between_comm_lon
  query_comm_lat a b := query_ofFn_congr fun _ => FixedCoord.between_comm_lat

/-! ### The index of a source -/

/-- If no step fails, the results are those of the steps. -/
theorem mapM_eq_ok {α β ε : Type} {step : α → Except ε β} {result : α → β} {xs : List α}
    (h : ∀ x ∈ xs, step x = .ok (result x)) : xs.mapM step = .ok (xs.map result) := by
  induction xs with
  | nil => rfl
  | cons x xs ih =>
      rw [List.forall_mem_cons] at h
      rw [List.mapM_cons, h.1, ih h.2]
      rfl

/-- If every point has a position, the index is that of the positions. -/
theorem ofPoints_eq {position : Nat → Except Fault FixedCoord}
    (h : ∀ i < n, position i = .ok (coord i)) :
    ofPoints n position = .ok (ofFn n coord : SpatialIndex τ) := by
  have hentries : (List.range n).mapM (entry position) =
      .ok ((List.range n).map fun i => ⟨coord i, i⟩) := by
    refine mapM_eq_ok fun i hi => ?_
    rw [entry, h i (List.mem_range.mp hi)]
    rfl
  rw [ofPoints, hentries]
  rfl

end Searching

/-- The index of a source is that of the positions of its points. -/
theorem build_eq {ρ : Type} [PointAccess ρ] {source : ρ} {coord : Nat → FixedCoord}
    (h : ∀ i < PointAccess.featureCount source,
      PointAccess.fixedCoordinate source i = .ok (coord i)) :
    build source = .ok (ofFn (PointAccess.featureCount source) coord) :=
  ofPoints_eq h

theorem buildBy_eq {t : Mercator.InverseTrigonometry} {source : PointSource} {coord : Nat → FixedCoord}
    (h : ∀ i < source.featureCount, source.fixedCoordinateBy t i = .ok (coord i)) :
    buildBy t source = .ok (ofFn source.featureCount coord) :=
  ofPoints_eq h

end SpatialIndex

/-- If every point has a position, the positions are a function of the number. -/
theorem exists_coord_of_exists {n : Nat} {position : Nat → Except Fault FixedCoord}
    (h : ∀ i < n, ∃ c, position i = .ok c) :
    ∃ coord : Nat → FixedCoord, ∀ i < n, position i = .ok (coord i) := by
  have : Nonempty FixedCoord := ⟨⟨0, 0⟩⟩
  choose! coord hcoord using h
  exact ⟨coord, hcoord⟩

/-- Every point of a source has a position. -/
theorem PointAccess.exists_coord {ρ : Type} [PointAccess ρ] (source : ρ) :
    ∃ coord : Nat → FixedCoord, ∀ i < featureCount source, fixedCoordinate source i = .ok (coord i) :=
  exists_coord_of_exists fun _ => exists_fixedCoordinate

theorem PointSource.exists_coordBy (t : Mercator.InverseTrigonometry) (source : PointSource) :
    ∃ coord : Nat → FixedCoord,
      ∀ i < source.featureCount, source.fixedCoordinateBy t i = .ok (coord i) :=
  exists_coord_of_exists fun _ => exists_fixedCoordinateBy t

/-! ### The index of a point set -/

namespace PointSet

variable {σ ρ : Type} [PointAccess ρ] {f : Forest} {p : PointSet σ ρ}

/-- If the point set has an index, it is that of its source. -/
def Indexed (p : PointSet σ ρ) : Prop :=
  ∀ index, p.index = some index → SpatialIndex.build p.source = .ok index

theorem spatialIndex_fst (hp : p.Indexed) (w : World σ) :
    (p.spatialIndex w).1 = SpatialIndex.build p.source := by
  unfold spatialIndex
  cases hindex : p.index with
  | some index => exact (hp index hindex).symm
  | none => cases SpatialIndex.build p.source <;> rfl

theorem pointsInEnvelope_fst (a b : FixedCoord) (p : PointSet σ ρ) (w : World σ) :
    (p.pointsInEnvelope a b w).1 = (p.spatialIndex w).1.map fun index => index.query a b := by
  unfold pointsInEnvelope
  rcases p.spatialIndex w with ⟨_ | index, p', w'⟩ <;> rfl

theorem indexed_spatialIndex (hp : p.Indexed) (w : World σ) : (p.spatialIndex w).2.1.Indexed := by
  unfold spatialIndex
  cases hindex : p.index with
  | some index => exact hp
  | none =>
      cases hbuild : SpatialIndex.build p.source with
      | error fault => exact hp
      | ok index => exact fun other hother => Option.some.inj hother ▸ hbuild

theorem indexed_perform (hp : p.Indexed) (f : Forest) (op : Operation) (w : World σ) :
    (p.perform f op w).1.Indexed := by
  cases op with
  | get key => exact hp
  | pin key => exact hp
  | peek key => exact hp
  | index => exact indexed_spatialIndex hp w
  | query a b =>
      rw [perform, pointsInEnvelope_snd]
      exact indexed_spatialIndex hp w

end PointSet

theorem Reachable.indexed {σ ρ : Type} [PointAccess ρ] {f : Forest} {p : PointSet σ ρ}
    (hp : Reachable f p) : p.Indexed := by
  induction hp with
  | new id source linker config => exact nofun
  | perform op w hp ih => exact PointSet.indexed_perform ih f op w

/-- Whatever was done with a point set before, a query finds the points whose positions are in the
envelope. -/
theorem Reachable.pointsInEnvelope_fst {σ ρ : Type} [PointAccess ρ] {f : Forest} {p : PointSet σ ρ}
    (hp : Reachable f p) {coord : Nat → FixedCoord}
    (hcoord : ∀ i < p.featureCount, PointAccess.fixedCoordinate p.source i = .ok (coord i))
    (a b : FixedCoord) (w : World σ) :
    (p.pointsInEnvelope a b w).1 = .ok ((List.range p.featureCount).filter fun i =>
      (Envelope.ofCorners a b).contains (coord i)) := by
  rw [PointSet.pointsInEnvelope_fst, PointSet.spatialIndex_fst hp.indexed,
    SpatialIndex.build_eq hcoord, ← SpatialIndex.query_ofFn (τ := Spatial.Tree)]
  rfl

/-- **Queries are exact.** The index of any number of positions, by whatever structure it is searched,
answers every query with the numbers of exactly the positions between the corners, in ascending order and
each once, in whichever way the corners are given, and has as many points as there are positions.

After any run of a new point set with a source of any kind, all its points have positions, and its queries
are answered by the exact index of these: no lookup, pin, earlier query or earlier call for the index makes
a difference, nor would another structure for the search. -/
theorem pointsInEnvelope_exact {σ ρ : Type} [PointAccess ρ] (f : Forest) (id : PointSetId) (source : ρ)
    (linker : Linker σ) (config : CacheConfig) (ops : List Operation) (w : World σ) :
    let q := ((PointSet.new id source linker config).play f ops w).1
    let n := PointAccess.featureCount source
    (∀ (τ : Type) [Spatial.SearchTree τ] m coord,
      (SpatialIndex.ofFn m coord : SpatialIndex τ).Exact m coord) ∧
      ∃ coord index, (∀ i < n, PointAccess.fixedCoordinate source i = .ok (coord i)) ∧
        SpatialIndex.build source = .ok index ∧ index.Exact n coord ∧
          (∀ w', (q.spatialIndex w').1 = .ok index ∧
            ∀ a b, (q.pointsInEnvelope a b w').1 = .ok (index.query a b)) ∧
          ∀ (τ : Type) [Spatial.SearchTree τ] a b,
            index.query a b = (SpatialIndex.ofFn n coord : SpatialIndex τ).query a b := by
  intro q n
  have hq : Reachable f q := (Reachable.new id source linker config).play ops w
  have hsource : q.source = source := PointSet.source_play f ops _ w
  obtain ⟨coord, hcoord⟩ := PointAccess.exists_coord source
  have hbuild := SpatialIndex.build_eq hcoord
  have hindex : ∀ w', (q.spatialIndex w').1 = .ok (.ofFn n coord) := by
    intro w'
    rw [PointSet.spatialIndex_fst hq.indexed, hsource, hbuild]
  refine ⟨fun τ _ => SpatialIndex.exact_ofFn, coord, _, hcoord, hbuild, SpatialIndex.exact_ofFn n coord,
    fun w' => ⟨hindex w', fun a b => ?_⟩, fun τ _ a b => ?_⟩
  · rw [PointSet.pointsInEnvelope_fst, hindex w']
    rfl
  · rw [SpatialIndex.query_ofFn, SpatialIndex.query_ofFn]

end StreetLinkage
