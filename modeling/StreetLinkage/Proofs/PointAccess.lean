import StreetLinkage.Points
import StreetLinkage.Proofs.GridIndexing

/-!
# Access to the points of a source

A source answers for its points, which are numbered below `featureCount`. What it does with other
numbers depends on where the points come from. A list compares the number with its length, so that
it answers for nothing else (`freeForm_answers_iff`, `freeForm_faults_iff`).

A grid does not compare. A number past the last point has a row and a column like any other: the
column starts again with each row, and the row is counted on to the south in a word. Hence a grid
with columns answers for other numbers than those of its points (`grid_answers_iff`,
`grid_keepsContract_iff`), and where it faults it is because the row is no word.
-/

namespace StreetLinkage

open Mercator

namespace Mercator.PixelGrid

variable {g : PixelGrid} {index : Nat}

/-- Every number has a column, if there are columns. -/
theorem column_cases (g : PixelGrid) (index : Nat) :
    (g.width = 0 ∧ g.column index = .error .remainderByZero) ∨
      (g.width ≠ 0 ∧ ∃ x, g.column index = .ok x) := by
  unfold column
  by_cases hwidth : g.width = 0
  · rw [if_pos hwidth]
    exact .inl ⟨hwidth, rfl⟩
  · have hpos : 0 < g.width.toNat :=
      Nat.pos_of_ne_zero fun hzero => hwidth (UInt32.toNat_inj.mp hzero)
    have hcolumns := Nat.mod_lt index hpos
    have hworld := Nat.le_trans g.east_le (worldSize_le g.zoom_le)
    have hword := UInt32.toNat_ofNat_of_lt' (Nat.lt_trans hcolumns g.width.toNat_lt)
    rw [if_neg hwidth, Word.add, hword, if_pos (by omega)]
    exact .inr ⟨hwidth, _, rfl⟩

/-- The row that the number of a point stands for, counted over the integers. Whole rows before the
number are counted in a word. -/
def rowNumber (g : PixelGrid) (index : Nat) : Nat :=
  g.north.toNat + index / g.width.toNat % 2 ^ 32

/-- Every number has a row, if there are columns and the row is a word. -/
theorem row_cases (g : PixelGrid) (index : Nat) :
    (g.width = 0 ∧ g.row index = .error .divideByZero) ∨
      (g.width ≠ 0 ∧ 2 ^ 32 ≤ g.rowNumber index ∧ g.row index = .error .addOverflow) ∨
      (g.width ≠ 0 ∧ g.rowNumber index < 2 ^ 32 ∧ ∃ y, g.row index = .ok y) := by
  have hsum : g.north.toNat + (UInt32.ofNat (index / g.width.toNat)).toNat = g.rowNumber index := by
    rw [UInt32.toNat_ofNat']
    rfl
  unfold row
  by_cases hwidth : g.width = 0
  · rw [if_pos hwidth]
    exact .inl ⟨hwidth, rfl⟩
  · rw [if_neg hwidth, Word.add, hsum]
    by_cases hword : g.rowNumber index < UInt32.size
    · rw [if_pos hword]
      exact .inr (.inr ⟨hwidth, hword, _, rfl⟩)
    · rw [if_neg hword]
      exact .inr (.inl ⟨hwidth, Nat.not_lt.mp hword, rfl⟩)

end Mercator.PixelGrid

namespace PointSource

/-! ### Answers and faults -/

/-- There are a latitude, a longitude and a fixed coordinate for the number. -/
structure Answers (source : PointSource) (index : Nat) : Prop where
  lat : ∃ degrees, source.lat index = .ok degrees
  lon : ∃ degrees, source.lon index = .ok degrees
  fixedCoordinate : ∃ c, source.fixedCoordinate index = .ok c

/-- Each of the three is refused. The latitude is read first, so the fixed coordinate has its fault. -/
structure Faults (source : PointSource) (index : Nat) (latFault lonFault : Fault) : Prop where
  lat : source.lat index = .error latFault
  lon : source.lon index = .error lonFault
  fixedCoordinate : source.fixedCoordinate index = .error latFault

variable {source : PointSource} {index : Nat} {fault latFault lonFault : Fault}

theorem Faults.not_answers (h : source.Faults index latFault lonFault) : ¬source.Answers index := by
  rintro ⟨⟨degrees, hlat⟩, -, -⟩
  cases h.lat.symm.trans hlat

/-- The fixed coordinate is there when both degrees are. -/
theorem Answers.of_degrees {lat lon : Float} (hlat : source.lat index = .ok lat)
    (hlon : source.lon index = .ok lon) : source.Answers index := by
  refine ⟨⟨lat, hlat⟩, ⟨lon, hlon⟩, .ofDegrees lat lon, ?_⟩
  have hby : source.latBy .standard index = .ok lat := hlat
  rw [PointSource.fixedCoordinate, PointSource.fixedCoordinateBy, hby, hlon]
  rfl

theorem fixedCoordinate_of_lat_error (h : source.lat index = .error fault) :
    source.fixedCoordinate index = .error fault := by
  have hby : source.latBy .standard index = .error fault := h
  rw [fixedCoordinate, fixedCoordinateBy, hby]
  rfl

/-! ### Lists -/

section Lists

variable {points : List Position}

/-- The fault of reading a list past its end. -/
def pastEnd (points : List Position) (index : Nat) : Fault :=
  .indexOutOfBounds points.length index

/-- A list answers for its entries, and reading past its end is the fault of all others. -/
theorem freeForm_cases (points : List Position) (index : Nat) :
    (index < points.length ∧ (freeForm points).Answers index) ∨
      (points.length ≤ index ∧
        (freeForm points).Faults index (pastEnd points index) (pastEnd points index)) := by
  rcases Nat.lt_or_ge index points.length with hlt | hge
  · have hentry : entry points index = .ok points[index] := by
      rw [entry, List.getElem?_eq_getElem hlt]
    have hlat : (freeForm points).lat index = .ok points[index].lat := by
      rw [lat, latBy, hentry]
      rfl
    have hlon : (freeForm points).lon index = .ok points[index].lon := by
      rw [lon, hentry]
      rfl
    exact .inl ⟨hlt, .of_degrees hlat hlon⟩
  · have hentry : entry points index = .error (pastEnd points index) := by
      rw [entry, List.getElem?_eq_none hge]
      rfl
    have hlat : (freeForm points).lat index = .error (pastEnd points index) := by
      rw [lat, latBy, hentry]
      rfl
    refine .inr ⟨hge, hlat, ?_, fixedCoordinate_of_lat_error hlat⟩
    rw [lon, hentry]
    rfl

theorem freeForm_answers_iff : (freeForm points).Answers index ↔ index < points.length := by
  rcases freeForm_cases points index with ⟨hlt, h⟩ | ⟨hge, h⟩
  · exact iff_of_true h hlt
  · exact iff_of_false h.not_answers (Nat.not_lt.mpr hge)

theorem freeForm_faults_iff :
    (freeForm points).Faults index (pastEnd points index) (pastEnd points index) ↔
      points.length ≤ index := by
  rcases freeForm_cases points index with ⟨hlt, h⟩ | ⟨hge, h⟩
  · exact iff_of_false (fun hfaults => hfaults.not_answers h) (Nat.not_le.mpr hlt)
  · exact iff_of_true h hge

end Lists

/-! ### Grids -/

section Grids

variable {g : PixelGrid}

/-- What a grid does with a number: there are no columns, the row is no word, or it answers. -/
inductive GridAccess (g : PixelGrid) (index : Nat) : Prop where
  | noColumns (width_eq : g.width = 0) (faults : (grid g).Faults index .divideByZero .remainderByZero)
  | noRow (width_ne : g.width ≠ 0) (row : 2 ^ 32 ≤ g.rowNumber index)
      (lon : ∃ degrees, (grid g).lon index = .ok degrees)
      (lat : (grid g).lat index = .error .addOverflow)
      (fixedCoordinate : (grid g).fixedCoordinate index = .error .addOverflow)
  | answered (width_ne : g.width ≠ 0) (row : g.rowNumber index < 2 ^ 32)
      (answers : (grid g).Answers index)

theorem gridAccess (g : PixelGrid) (index : Nat) : GridAccess g index := by
  have hlat : (grid g).lat index = (g.row index).map (pixelCenterLat · g.zoom) := rfl
  have hlon : (grid g).lon index = (g.column index).map (pixelCenterLon · g.zoom) := rfl
  rcases g.column_cases index with ⟨hwidth, hcolumn⟩ | ⟨hwidth, x, hcolumn⟩ <;>
    rw [hcolumn] at hlon
  · rcases g.row_cases index with ⟨-, hrow⟩ | ⟨hne, -⟩ | ⟨hne, -⟩
    · rw [hrow] at hlat
      exact .noColumns hwidth ⟨hlat, hlon, fixedCoordinate_of_lat_error hlat⟩
    · exact absurd hwidth hne
    · exact absurd hwidth hne
  · rcases g.row_cases index with ⟨hzero, -⟩ | ⟨-, hword, hrow⟩ | ⟨-, hword, y, hrow⟩
    · exact absurd hzero hwidth
    · rw [hrow] at hlat
      exact .noRow hwidth hword ⟨_, hlon⟩ hlat (fixedCoordinate_of_lat_error hlat)
    · rw [hrow] at hlat
      exact .answered hwidth hword (.of_degrees hlat hlon)

theorem grid_answers_iff :
    (grid g).Answers index ↔ g.width ≠ 0 ∧ g.rowNumber index < 2 ^ 32 := by
  rcases gridAccess g index with ⟨hwidth, h⟩ | ⟨-, hword, -, hlat, -⟩ | ⟨hwidth, hword, h⟩
  · exact iff_of_false h.not_answers fun h => h.1 hwidth
  · refine iff_of_false ?_ fun h => Nat.not_lt.mpr hword h.2
    rintro ⟨⟨degrees, hdegrees⟩, -, -⟩
    cases hlat.symm.trans hdegrees
  · exact iff_of_true h ⟨hwidth, hword⟩

theorem grid_lon_iff : (∃ degrees, (grid g).lon index = .ok degrees) ↔ g.width ≠ 0 := by
  rcases gridAccess g index with ⟨hwidth, h⟩ | ⟨hwidth, -, hlon, -, -⟩ | ⟨hwidth, -, h⟩
  · refine iff_of_false ?_ fun h => h hwidth
    rintro ⟨degrees, hdegrees⟩
    cases h.lon.symm.trans hdegrees
  · exact iff_of_true hlon hwidth
  · exact iff_of_true h.lon hwidth

theorem grid_noColumns_iff :
    (grid g).Faults index .divideByZero .remainderByZero ↔ g.width = 0 := by
  rcases gridAccess g index with ⟨hwidth, h⟩ | ⟨hwidth, -, -, hlat, -⟩ | ⟨hwidth, -, h⟩
  · exact iff_of_true h hwidth
  · refine iff_of_false (fun h => ?_) hwidth
    cases hlat.symm.trans h.lat
  · exact iff_of_false (fun hfaults => hfaults.not_answers h) hwidth

theorem grid_addOverflow_iff :
    ((grid g).lat index = .error .addOverflow ∧
      (grid g).fixedCoordinate index = .error .addOverflow) ↔
        g.width ≠ 0 ∧ 2 ^ 32 ≤ g.rowNumber index := by
  rcases gridAccess g index with ⟨hwidth, h⟩ | ⟨hwidth, hword, -, hlat, hfixed⟩ | ⟨-, hword, h⟩
  · refine iff_of_false (fun hfaults => ?_) fun h => h.1 hwidth
    cases h.lat.symm.trans hfaults.1
  · exact iff_of_true ⟨hlat, hfixed⟩ ⟨hwidth, hword⟩
  · refine iff_of_false (fun hfaults => ?_) fun h => Nat.not_lt.mpr h.2 hword
    obtain ⟨degrees, hdegrees⟩ := h.lat
    cases hdegrees.symm.trans hfaults.1

/-- The points of a grid are answered for. -/
theorem grid_answers_of_lt (h : index < g.featureCount) : (grid g).Answers index := by
  obtain ⟨y, hrow, hy⟩ := g.exists_row h
  have hrows : index / g.width.toNat < 2 ^ 32 := by
    have hindex := (PixelGrid.indexExact h).rows
    rw [← hindex]
    exact UInt32.toNat_lt _
  have hnumber : g.rowNumber index = y.toNat := by
    rw [PixelGrid.rowNumber, Nat.mod_eq_of_lt hrows, hy]
  exact grid_answers_iff.mpr ⟨PixelGrid.width_ne_zero h, hnumber ▸ y.toNat_lt⟩

end Grids

/-! ### The contract of point sources -/

/-- Each of the three is there for the points, and a fault for all other numbers. -/
structure KeepsContract (source : PointSource) (index : Nat) : Prop where
  lat : (∃ degrees, source.lat index = .ok degrees) ↔ index < source.featureCount
  lon : (∃ degrees, source.lon index = .ok degrees) ↔ index < source.featureCount
  fixedCoordinate : (∃ c, source.fixedCoordinate index = .ok c) ↔ index < source.featureCount

theorem Answers.keepsContract (h : source.Answers index) (hlt : index < source.featureCount) :
    source.KeepsContract index where
  lat := iff_of_true h.lat hlt
  lon := iff_of_true h.lon hlt
  fixedCoordinate := iff_of_true h.fixedCoordinate hlt

theorem Faults.keepsContract (h : source.Faults index latFault lonFault)
    (hge : source.featureCount ≤ index) : source.KeepsContract index := by
  constructor <;> refine iff_of_false ?_ (Nat.not_lt.mpr hge)
  · simp [h.lat]
  · simp [h.lon]
  · simp [h.fixedCoordinate]

theorem freeForm_keepsContract (points : List Position) (index : Nat) :
    (freeForm points).KeepsContract index := by
  rcases freeForm_cases points index with ⟨hlt, h⟩ | ⟨hge, h⟩
  · exact h.keepsContract hlt
  · exact h.keepsContract hge

/-- A grid with columns has a longitude for every number, so it breaks the contract for all numbers but
those of its points. -/
theorem grid_keepsContract_iff {g : PixelGrid} :
    (grid g).KeepsContract index ↔ index < g.featureCount ∨ g.width = 0 := by
  constructor
  · intro h
    by_cases hwidth : g.width = 0
    · exact .inr hwidth
    · exact .inl (h.lon.mp (grid_lon_iff.mpr hwidth))
  · rintro (hlt | hwidth)
    · exact (grid_answers_of_lt hlt).keepsContract hlt
    · refine (grid_noColumns_iff.mpr hwidth).keepsContract ?_
      show g.featureCount ≤ index
      rw [PixelGrid.featureCount_eq, hwidth, UInt32.toNat_zero, Nat.zero_mul]
      exact Nat.zero_le index

/-- **Which numbers are answered for.** The contract is kept by lists for every number, and by grids for
the numbers of their points; without columns there are no points, and a grid keeps it for every number.

A list answers for its points and faults for all other numbers. A grid answers for its points as well,
but also for every other number whose row, counted on from the first one, is a word. Without columns it
faults for every number, as the row is a quotient by the number of columns and the column a remainder; a
row that is no word is the fault of the latitude and of the fixed coordinate, and the longitude is there
nevertheless. -/
theorem answers_characterized (source : PointSource) (index : Nat) :
    (source.KeepsContract index ↔
      index < source.featureCount ∨ ∀ g, source = .grid g → g.width = 0) ∧
    match source with
    | freeForm points =>
        ((freeForm points).Answers index ↔ index < points.length) ∧
        ((freeForm points).Faults index (.indexOutOfBounds points.length index)
          (.indexOutOfBounds points.length index) ↔ points.length ≤ index)
    | grid g =>
        ((grid g).Answers index ↔
          g.width ≠ 0 ∧ g.north.toNat + index / g.width.toNat % 2 ^ 32 < 2 ^ 32) ∧
        ((∃ degrees, (grid g).lon index = .ok degrees) ↔ g.width ≠ 0) ∧
        ((grid g).Faults index .divideByZero .remainderByZero ↔ g.width = 0) ∧
        (((grid g).lat index = .error .addOverflow ∧
          (grid g).fixedCoordinate index = .error .addOverflow) ↔
            g.width ≠ 0 ∧ 2 ^ 32 ≤ g.north.toNat + index / g.width.toNat % 2 ^ 32) := by
  cases source with
  | freeForm points =>
      refine ⟨iff_of_true (freeForm_keepsContract points index) (.inr nofun), ?_⟩
      exact ⟨freeForm_answers_iff, freeForm_faults_iff⟩
  | grid g =>
      refine ⟨?_, grid_answers_iff, grid_lon_iff, grid_noColumns_iff, grid_addOverflow_iff⟩
      rw [grid_keepsContract_iff]
      refine or_congr_right ⟨?_, fun h => h g rfl⟩
      rintro hwidth g' hg'
      exact grid.inj hg' ▸ hwidth

/-- One pixel in the south-western corner of the largest world: its point is answered for, and the
row after it is no word, although there is a longitude. -/
theorem answers_characterized_at_southern_edge :
    ∃ g, PixelGrid.new 24 0 4294967295 1 1 = .ok g ∧
      (grid g).KeepsContract 0 ∧ ¬(grid g).KeepsContract 1 ∧
        (grid g).lat 1 = .error .addOverflow := by
  refine ⟨⟨24, 0, 4294967295, 1, 1, by decide, by decide, by decide⟩, rfl, ?_, ?_, ?_⟩
  · exact (answers_characterized _ 0).1.mpr (.inl (by decide))
  · intro h
    have hcases := (answers_characterized _ 1).1.mp h
    exact absurd hcases (by simp +decide)
  · exact ((answers_characterized (grid _) 1).2.2.2.2.mpr ⟨by decide, by decide⟩).1

/-- A grid of twelve points answers for the number after the last one, with a pixel to the south of
the grid. -/
theorem grid_answers_past_last_point :
    ∃ g, PixelGrid.new 9 100 200 4 3 = .ok g ∧ ¬12 < (grid g).featureCount ∧
      (grid g).Answers 12 ∧ g.row 12 = .ok 203 ∧ g.column 12 = .ok 100 := by
  refine ⟨⟨9, 100, 200, 4, 3, by decide, by decide, by decide⟩, rfl, by decide, ?_, rfl, rfl⟩
  exact grid_answers_iff.mpr ⟨by decide, by decide⟩

end PointSource

end StreetLinkage
