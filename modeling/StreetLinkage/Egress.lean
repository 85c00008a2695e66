/-!
# Egress cost tables

An egress cost table lists, for each origin on the street, the points that can be reached from it and
the time this takes. Origins are numbered; an origin without an entry reaches nothing.
-/

namespace StreetLinkage

/-- A point within reach and the seconds to it. -/
structure PointCost where
  point : Nat
  seconds : Nat
  deriving DecidableEq, Repr

/-- The costs from every origin. -/
structure EgressTable where
  rows : List (List PointCost) := []
  deriving DecidableEq, Repr

namespace EgressTable

instance : Inhabited EgressTable := ⟨{}⟩

/-- The number of origins. -/
def originCount (t : EgressTable) : Nat := t.rows.length

/-- The costs from an origin; none from an origin that is not in the table. -/
def costsFrom (t : EgressTable) (origin : Nat) : List PointCost :=
  t.rows[origin]?.getD []

/-- The number of costs from all origins together. -/
def entryCount (t : EgressTable) : Nat :=
  t.rows.foldr (fun row rest => row.length + rest) 0

/-- Does the table hold no costs? -/
def isEmpty (t : EgressTable) : Bool := t.entryCount == 0

end EgressTable

end StreetLinkage
