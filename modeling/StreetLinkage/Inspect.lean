import StreetLinkage.PointSet
import StreetLinkage.Text.Quoted

/-!
# Texts for a developer

Every value that a developer may want to look at has a text that names its type and its fields. Numbers
that are addresses elsewhere are left out: a network is shown by its label.
-/

namespace StreetLinkage

/-- A kind of values that have a text. -/
class Inspectable (α : Type) where
  inspect : α → String

namespace Inspect

/-- A value with named fields. -/
def record (name : String) (fields : List (String × String)) : String :=
  let fields := fields.map fun (field, value) => field ++ ": " ++ value
  name ++ " \x7b " ++ ", ".intercalate fields ++ " \x7d"

/-- A list of values. -/
def list (items : List String) : String :=
  "[" ++ ", ".intercalate items ++ "]"

/-- A value that may be missing. -/
def optional : Option String → String
  | some value => "Some(" ++ value ++ ")"
  | none => "None"

end Inspect

open Inspect

/-- The text of a travel mode. -/
def TravelMode.inspect : TravelMode → String
  | walk => "Walk"
  | bicycle => "Bicycle"
  | car => "Car"

/-- The text of a key; the network's address is not shown. -/
def LinkageKey.inspect (f : Forest) (key : LinkageKey) : String :=
  record "LinkageKey"
    [("network", Text.quoted (f.label key.network)), ("addr", "ADDR"), ("mode", key.mode.inspect)]

/-- The text of a policy. -/
def DoubleBuildPolicy.inspect : DoubleBuildPolicy → String
  | logAndOverwrite => "LogAndOverwrite"
  | reject => "Reject"

/-- The text of a configuration. -/
def CacheConfig.inspect (c : CacheConfig) : String :=
  record "LinkageCacheConfig"
    [("capacity", toString c.capacity), ("double_build", c.doubleBuild.inspect)]

/-- The text of a store: its configuration and the sizes of its tiers. -/
def LinkageStore.inspect (s : LinkageStore) : String :=
  record "LinkageStore"
    [("config", s.config.inspect), ("unevictable", toString s.pins.length),
      ("evictable", toString s.bounded.size)]

/-- The text of a linkage. -/
def Linkage.inspect (f : Forest) (tables : EgressLedger) (l : Linkage) : String :=
  record "Linkage"
    [("key", l.key.inspect f),
      ("base", optional (l.base?.map fun base => Text.quoted (base.key.display f))),
      ("linked_points", toString l.linkedPoints),
      ("has_egress_costs", toString (tables.get? l).isSome)]

/-- The text of a pixel grid. -/
def Mercator.PixelGrid.inspect (g : PixelGrid) : String :=
  record "WebMercatorGridPoints"
    [("zoom", toString g.zoom), ("west", toString g.west), ("north", toString g.north),
      ("width", toString g.width), ("height", toString g.height)]

/-- The text of a point source. -/
def PointSource.inspect : PointSource → String
  | freeForm points =>
      record "FreeFormPoints"
        [("lats", list (points.map fun p => Decimal.inspected p.lat)),
          ("lons", list (points.map fun p => Decimal.inspected p.lon))]
  | grid g => g.inspect

instance : Inspectable PointSource where
  inspect := PointSource.inspect

/-- The text of a spatial index. -/
def SpatialIndex.inspect {τ : Type} [Spatial.SearchTree τ] (s : SpatialIndex τ) : String :=
  record "SpatialIndex" [("points", toString s.length)]

/-- The text of a point set. -/
def PointSet.inspect {σ ρ : Type} [Inspectable ρ] (p : PointSet σ ρ) : String :=
  record "PointSet"
    [("source", Inspectable.inspect p.source), ("linkages", p.store.inspect),
      ("spatial_index", optional (p.index.map SpatialIndex.inspect))]

end StreetLinkage
