/-!
# Configuration of a linkage store

A store is configured once, when it is made: how many linkages its bounded tier may hold, and what
happens when a linkage that is cached already is to be pinned.
-/

namespace StreetLinkage

/-- What happens when a linkage is pinned whose key is cached already. -/
inductive DoubleBuildPolicy where
  /-- It is reported, built again and replaces what was pinned. -/
  | logAndOverwrite
  /-- It is reported and refused. -/
  | reject
  deriving DecidableEq, Repr

namespace DoubleBuildPolicy

/-- Both policies. -/
def all : List DoubleBuildPolicy := [logAndOverwrite, reject]

/-- The name of a policy in files. -/
def name : DoubleBuildPolicy → String
  | logAndOverwrite => "log_and_overwrite"
  | reject => "reject"

/-- The policy of a name. -/
def ofName? (text : String) : Option DoubleBuildPolicy :=
  all.find? fun policy => policy.name == text

end DoubleBuildPolicy

/-- Room for three modes of two scenarios and of the baseline. -/
def defaultCapacity : Nat := 9

/-- The configuration of a store. -/
structure CacheConfig where
  /-- The most entries of the bounded tier. -/
  capacity : Nat := defaultCapacity
  doubleBuild : DoubleBuildPolicy := .logAndOverwrite
  deriving DecidableEq, Repr

namespace CacheConfig

/-- The configuration with another capacity. -/
def withCapacity (c : CacheConfig) (capacity : Nat) : CacheConfig :=
  { c with capacity }

/-- The configuration with another policy. -/
def withDoubleBuild (c : CacheConfig) (policy : DoubleBuildPolicy) : CacheConfig :=
  { c with doubleBuild := policy }

end CacheConfig

end StreetLinkage
