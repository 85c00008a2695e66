import StreetLinkage.Degrees

/-!
# Envelopes

An envelope is a rectangle along the axes in fixed-point degrees; its boundary belongs to it. It may be
given by any two opposite corners (`Envelope.ofCorners`).
-/

namespace StreetLinkage

/-- A rectangle with its boundary. -/
structure Envelope where
  west : Int32
  east : Int32
  south : Int32
  north : Int32
  deriving DecidableEq, Repr

namespace Envelope

/-- The envelope between two opposite corners. -/
def ofCorners (a b : FixedCoord) : Envelope where
  west := min a.lon b.lon
  east := max a.lon b.lon
  south := min a.lat b.lat
  north := max a.lat b.lat

/-- The envelope of one position. -/
def single (c : FixedCoord) : Envelope := ⟨c.lon, c.lon, c.lat, c.lat⟩

/-- Does the position lie in the envelope? -/
def contains (e : Envelope) (c : FixedCoord) : Bool :=
  e.west ≤ c.lon && c.lon ≤ e.east && e.south ≤ c.lat && c.lat ≤ e.north

/-- Have the two envelopes no position in common? -/
def disjoint (e f : Envelope) : Bool :=
  e.east < f.west || f.east < e.west || e.north < f.south || f.north < e.south

/-- The smallest envelope around both. -/
def join (e f : Envelope) : Envelope where
  west := min e.west f.west
  east := max e.east f.east
  south := min e.south f.south
  north := max e.north f.north

/-- The smallest envelope around the positions, the first of which is given apart. -/
def around (first : FixedCoord) (rest : List FixedCoord) : Envelope :=
  rest.foldl (fun e c => e.join (.single c)) (.single first)

/-! ## Positions in envelopes -/

private theorem le_larger_left (a b : Int32) : a ≤ max a b := by
  show a ≤ if a ≤ b then b else a
  split
  · assumption
  · exact Int32.le_refl a

private theorem le_larger_right (a b : Int32) : b ≤ max a b := by
  show b ≤ if a ≤ b then b else a
  split
  · exact Int32.le_refl b
  · exact (Int32.le_total a b).resolve_left ‹_›

theorem toInt_min (a b : Int32) : (min a b).toInt = min a.toInt b.toInt := by
  show (if a ≤ b then a else b).toInt = _
  split
  · next h => rw [Int.min_eq_left (Int32.le_iff_toInt_le.mp h)]
  · next h =>
    have hba := (Int32.le_total a b).resolve_left h
    rw [Int.min_eq_right (Int32.le_iff_toInt_le.mp hba)]

theorem toInt_max (a b : Int32) : (max a b).toInt = max a.toInt b.toInt := by
  show (if a ≤ b then b else a).toInt = _
  split
  · next h => rw [Int.max_eq_right (Int32.le_iff_toInt_le.mp h)]
  · next h =>
    have hba := (Int32.le_total a b).resolve_left h
    rw [Int.max_eq_left (Int32.le_iff_toInt_le.mp hba)]

theorem contains_iff {e : Envelope} {c : FixedCoord} :
    e.contains c = true ↔
      (e.west ≤ c.lon ∧ c.lon ≤ e.east) ∧ e.south ≤ c.lat ∧ c.lat ≤ e.north := by
  simp [contains, and_assoc]

/-- A position lies between two corners when each coordinate lies between those of the corners. -/
theorem contains_ofCorners_iff {a b c : FixedCoord} :
    (ofCorners a b).contains c = true ↔
      (min a.lon b.lon ≤ c.lon ∧ c.lon ≤ max a.lon b.lon) ∧
        min a.lat b.lat ≤ c.lat ∧ c.lat ≤ max a.lat b.lat :=
  contains_iff

@[simp] theorem contains_single (c : FixedCoord) : (single c).contains c = true :=
  contains_iff.mpr ⟨⟨Int32.le_refl _, Int32.le_refl _⟩, Int32.le_refl _, Int32.le_refl _⟩

/-- Envelopes with a common position are not disjoint. -/
theorem not_disjoint_of_contains {e f : Envelope} {c : FixedCoord} (he : e.contains c = true)
    (hf : f.contains c = true) : e.disjoint f = false := by
  obtain ⟨⟨hew, hee⟩, hes, hen⟩ := contains_iff.mp he
  obtain ⟨⟨hfw, hfe⟩, hfs, hfn⟩ := contains_iff.mp hf
  simp only [disjoint, Bool.or_eq_false_iff, decide_eq_false_iff_not, Int32.not_lt]
  exact ⟨⟨⟨Int32.le_trans hfw hee, Int32.le_trans hew hfe⟩, Int32.le_trans hfs hen⟩,
    Int32.le_trans hes hfn⟩

theorem contains_join_left {e : Envelope} {c : FixedCoord} (f : Envelope)
    (h : e.contains c = true) : (e.join f).contains c = true := by
  obtain ⟨⟨hw, he⟩, hs, hn⟩ := contains_iff.mp h
  exact contains_iff.mpr ⟨⟨Int32.le_trans Std.min_le_left hw, Int32.le_trans he (le_larger_left _ _)⟩,
    Int32.le_trans Std.min_le_left hs, Int32.le_trans hn (le_larger_left _ _)⟩

theorem contains_join_right {f : Envelope} {c : FixedCoord} (e : Envelope)
    (h : f.contains c = true) : (e.join f).contains c = true := by
  obtain ⟨⟨hw, he⟩, hs, hn⟩ := contains_iff.mp h
  exact contains_iff.mpr ⟨⟨Int32.le_trans Std.min_le_right hw, Int32.le_trans he (le_larger_right _ _)⟩,
    Int32.le_trans Std.min_le_right hs, Int32.le_trans hn (le_larger_right _ _)⟩

private theorem contains_foldl_join {cs : List FixedCoord} {e : Envelope} {c : FixedCoord}
    (h : e.contains c = true ∨ c ∈ cs) :
    (cs.foldl (fun e c => e.join (.single c)) e).contains c = true := by
  induction cs generalizing e with
  | nil => simpa using h
  | cons d cs ih =>
      refine ih ?_
      rcases h with h | h
      · exact .inl (contains_join_left _ h)
      · rcases List.mem_cons.mp h with rfl | h
        · exact .inl (contains_join_right _ (contains_single _))
        · exact .inr h

/-- The envelope around positions holds each of them. -/
theorem contains_around {first c : FixedCoord} {rest : List FixedCoord} (h : c ∈ first :: rest) :
    (around first rest).contains c = true := by
  refine contains_foldl_join ?_
  rcases List.mem_cons.mp h with rfl | h
  · exact .inl (contains_single _)
  · exact .inr h

end Envelope

end StreetLinkage
