import StreetLinkage.Json.Reader
import StreetLinkage.Network
import StreetLinkage.Store.Config

/-!
# Settings read from JSON

A cache configuration is an object whose two members may come in any order; a missing one has its
default value, a repeated one is refused, and members of other names are ignored. It may also be
written as an array of the values in order, from which values may be missing at the end. A policy or a
travel mode is written by its name.
-/

namespace StreetLinkage

/-- The bound of a capacity: it is a 64-bit word. -/
def capacityBound : Nat := Nat.pow 2 64

/-- A capacity. -/
def capacityOfJson? (value : Json.Value) : Option Nat :=
  value.nat?.filter (· < capacityBound)

/-- A policy, by its name. -/
def DoubleBuildPolicy.ofJson? (value : Json.Value) : Option DoubleBuildPolicy :=
  value.choice?.bind ofName?

/-- A travel mode, by its name. -/
def TravelMode.ofJson? (value : Json.Value) : Option TravelMode :=
  value.choice?.bind ofName?

/-- A field that is empty takes a value as `read` understands it; one that is not takes no other. -/
def fillOnce {α : Type} (read : Json.Value → Option α) (field : Option α) (value : Json.Value) :
    Option (Option α) :=
  match field with
  | none => (read value).map some
  | some _ => none

namespace CacheConfig

/-- What the members read so far have given. -/
structure Draft where
  capacity : Option Nat := none
  doubleBuild : Option DoubleBuildPolicy := none
  deriving DecidableEq, Repr

namespace Draft

/-- The draft after one more member. A member of another name is ignored. -/
def add? (draft : Draft) (member : String × Json.Value) : Option Draft :=
  if member.1 = "capacity" then
    (fillOnce capacityOfJson? draft.capacity member.2).map fun capacity => { draft with capacity }
  else if member.1 = "double_build" then
    (fillOnce DoubleBuildPolicy.ofJson? draft.doubleBuild member.2).map
      fun doubleBuild => { draft with doubleBuild }
  else some draft

/-- The configuration of a draft. What is missing has its default value. -/
def finish (draft : Draft) : CacheConfig :=
  let default : CacheConfig := {}
  { capacity := draft.capacity.getD default.capacity,
    doubleBuild := draft.doubleBuild.getD default.doubleBuild }

end Draft

/-- The configuration of an object's members, one after the other. -/
def ofMembers? (members : List (String × Json.Value)) : Option CacheConfig :=
  (members.foldlM Draft.add? {}).map Draft.finish

/-- The configuration of an array's items. -/
def ofItems? : List Json.Value → Option CacheConfig
  | [] => some {}
  | [capacity] => do return { capacity := ← capacityOfJson? capacity }
  | [capacity, policy] => do
      return { capacity := ← capacityOfJson? capacity,
               doubleBuild := ← DoubleBuildPolicy.ofJson? policy }
  | _ => none

/-- The configuration of a JSON value. -/
def ofJson? (value : Json.Value) : Option CacheConfig :=
  match value with
  | .object _ => value.members?.bind ofMembers?
  | .array items => ofItems? items
  | _ => none

/-- The configuration of a text, by the given reader of JSON. -/
def readBy (reader : String → Option Json.Value) (text : String) : Option CacheConfig :=
  (reader text).bind ofJson?

/-- The configuration of a JSON text. -/
def read? (text : String) : Option CacheConfig :=
  readBy Json.read? text

end CacheConfig

/-- The travel mode of a JSON text. -/
def TravelMode.read? (text : String) : Option TravelMode :=
  (Json.read? text).bind ofJson?

end StreetLinkage
