import StreetLinkage.Spatial.Envelope

/-!
# Search by envelope

A search tree is made of all its entries at once and answers which of them lie in an envelope. An index
asks no more of it than the laws of `SearchTree`, so any other structure of this kind would do.

The one at hand (`Tree`) is balanced: a list is sorted along one axis, split in the middle, and both
halves are packed along the other axis. Every inner node carries an envelope around all its entries, so a
search (`Tree.within`) leaves out a subtree whose envelope the query does not meet. Packing only rearranges
the entries and a skipped subtree holds no answer, so the search finds what testing every entry would find.
-/

namespace StreetLinkage.Spatial

/-- A position and the number of the point that has it. -/
structure Entry where
  coord : FixedCoord
  index : Nat
  deriving DecidableEq, Repr

/-- A structure that is made of entries once and then searched. It holds what it was made of, and a search
finds what testing every entry would find, in whatever order. -/
class SearchTree (τ : Type) where
  /-- The structure of the entries. -/
  ofList : List Entry → τ
  /-- The number of entries. -/
  size : τ → Nat
  /-- The entries inside an envelope. -/
  within : Envelope → τ → List Entry
  size_ofList : ∀ entries, size (ofList entries) = entries.length
  within_ofList : ∀ e entries,
    (within e (ofList entries)).Perm (entries.filter fun entry => e.contains entry.coord)

/-- The axis along which a list is split. -/
inductive Axis where
  | lon
  | lat
  deriving DecidableEq, Repr

namespace Axis

/-- The other axis. -/
def other : Axis → Axis
  | lon => lat
  | lat => lon

/-- Is `a` not beyond `b` on the axis? -/
def ordered : Axis → Entry → Entry → Bool
  | lon, a, b => a.coord.lon ≤ b.coord.lon
  | lat, a, b => a.coord.lat ≤ b.coord.lat

end Axis

/-- Entries under nested envelopes. -/
inductive Tree where
  | leaf (entries : List Entry)
  | node (bounds : Envelope) (left right : Tree)
  deriving Repr

namespace Tree

/-- The most entries of a leaf that is not split. -/
def leafSize : Nat := 6

/-- Packs the entries into a tree of at most the given height. -/
def pack : Nat → Axis → List Entry → Tree
  | 0, _, entries => .leaf entries
  | _ + 1, _, [] => .leaf []
  | height + 1, axis, first :: rest =>
      if rest.length < leafSize then .leaf (first :: rest)
      else
        let sorted := (first :: rest).mergeSort axis.ordered
        let middle := sorted.length / 2
        .node (.around first.coord (rest.map Entry.coord))
          (pack height axis.other (sorted.take middle))
          (pack height axis.other (sorted.drop middle))

/-- The balanced tree of the entries. -/
def ofList (entries : List Entry) : Tree :=
  pack (entries.length.log2 + 1) .lon entries

/-- All entries. -/
def toList : Tree → List Entry
  | leaf entries => entries
  | node _ left right => left.toList ++ right.toList

/-- The number of entries. -/
def size : Tree → Nat
  | leaf entries => entries.length
  | node _ left right => left.size + right.size

/-- The entries inside an envelope. -/
def within (e : Envelope) : Tree → List Entry
  | leaf entries => entries.filter fun entry => e.contains entry.coord
  | node bounds left right =>
      if e.disjoint bounds then [] else left.within e ++ right.within e

/-! ## What packing keeps and what a search finds -/

@[simp] theorem size_eq_length (t : Tree) : t.size = t.toList.length := by
  induction t with
  | leaf entries => rfl
  | node _ left right hl hr => simp [size, toList, hl, hr]

/-- Every envelope of the tree holds the entries below it. -/
def Bounded : Tree → Prop
  | leaf _ => True
  | node bounds left right =>
      (∀ entry ∈ left.toList ++ right.toList, bounds.contains entry.coord = true) ∧
        left.Bounded ∧ right.Bounded

/-- Packing rearranges the entries. -/
theorem toList_pack_perm (height : Nat) (axis : Axis) (entries : List Entry) :
    (pack height axis entries).toList.Perm entries := by
  induction height generalizing axis entries with
  | zero => exact .refl _
  | succ height ih =>
      cases entries with
      | nil => exact .refl _
      | cons first rest =>
          unfold pack
          split
          · exact .refl _
          · refine ((ih _ _).append (ih _ _)).trans ?_
            rw [List.take_append_drop]
            exact List.mergeSort_perm _ _

/-- Packing keeps the entries of every node inside its envelope. -/
theorem bounded_pack (height : Nat) (axis : Axis) (entries : List Entry) :
    (pack height axis entries).Bounded := by
  induction height generalizing axis entries with
  | zero => trivial
  | succ height ih =>
      cases entries with
      | nil => trivial
      | cons first rest =>
          unfold pack
          split
          · trivial
          · refine ⟨fun entry hentry => ?_, ih _ _, ih _ _⟩
            have hperm := (toList_pack_perm height axis.other
                (((first :: rest).mergeSort axis.ordered).take
                  (((first :: rest).mergeSort axis.ordered).length / 2))).append
              (toList_pack_perm height axis.other
                (((first :: rest).mergeSort axis.ordered).drop
                  (((first :: rest).mergeSort axis.ordered).length / 2)))
            have hmem := hperm.mem_iff.mp hentry
            rw [List.take_append_drop] at hmem
            have hmem := (List.mergeSort_perm _ _).mem_iff.mp hmem
            refine Envelope.contains_around ?_
            rw [← List.map_cons]
            exact List.mem_map_of_mem hmem

/-- In a bounded tree a search finds what testing every entry finds. -/
theorem within_eq_filter {t : Tree} (h : t.Bounded) (e : Envelope) :
    t.within e = t.toList.filter fun entry => e.contains entry.coord := by
  induction t with
  | leaf entries => rfl
  | node bounds left right hl hr =>
      obtain ⟨hb, hleft, hright⟩ := h
      unfold within toList
      split
      · rename_i hd
        refine (List.filter_eq_nil_iff.mpr fun entry hentry hc => ?_).symm
        rw [Envelope.not_disjoint_of_contains hc (hb entry hentry)] at hd
        cases hd
      · rw [hl hleft, hr hright, List.filter_append]

theorem toList_ofList_perm (entries : List Entry) : (ofList entries).toList.Perm entries :=
  toList_pack_perm _ _ _

theorem bounded_ofList (entries : List Entry) : (ofList entries).Bounded :=
  bounded_pack _ _ _

instance : SearchTree Tree where
  ofList := ofList
  size := size
  within := within
  size_ofList entries := by
    rw [size_eq_length, (toList_ofList_perm entries).length_eq]
  within_ofList e entries := by
    rw [within_eq_filter (bounded_ofList entries)]
    exact (toList_ofList_perm entries).filter _

end Tree

end StreetLinkage.Spatial
