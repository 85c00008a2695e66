import StreetLinkage.Network

/-!
# Errors of linking

A `BuildError` is what the maker of linkages reports; it carries the texts of the causes behind it,
outermost first. A `LinkageError` says what this means for a lookup and for which key.
-/

namespace StreetLinkage

/-- A report that no linkage, or no egress cost table, could be made. -/
structure BuildError where
  message : String
  /-- The causes behind the report, outermost first. -/
  sources : List String := []
  deriving DecidableEq, Repr

/-- The text of the report and of the causes behind it. -/
def BuildError.chain (e : BuildError) : List String :=
  e.message :: e.sources

/-- Why there is no linkage. -/
inductive LinkageError where
  /-- The linkage could not be made. -/
  | build (key : LinkageKey) (cause : BuildError)
  /-- A linkage that was made for one point set turned up in another. -/
  | invariantViolation (key : LinkageKey)
  /-- The key is cached already and must not be pinned again. -/
  | doubleBuild (key : LinkageKey)
  /-- The linkage was made, but not its egress cost table. -/
  | egressCosts (key : LinkageKey) (cause : BuildError)
  deriving DecidableEq, Repr

namespace LinkageError

/-- The key that the error is about. -/
def key : LinkageError → LinkageKey
  | build key _ => key
  | invariantViolation key => key
  | doubleBuild key => key
  | egressCosts key _ => key

/-- The report behind the error. -/
def cause? : LinkageError → Option BuildError
  | build _ cause => some cause
  | invariantViolation _ => none
  | doubleBuild _ => none
  | egressCosts _ cause => some cause

/-- The text of the error. -/
def message (f : Forest) (e : LinkageError) : String :=
  let key := e.key.display f
  match e with
  | build _ cause =>
      let reason := cause.message
      s!"Failed to link point set to {key}: {reason}"
  | invariantViolation _ => s!"Linkage for {key} belongs to a different point set"
  | doubleBuild _ => s!"Unevictable linkage for {key} is being built more than once"
  | egressCosts _ cause =>
      let reason := cause.message
      s!"Failed to compute egress costs for {key}: {reason}"

/-- The texts of the causes behind the error, outermost first. -/
def chain (e : LinkageError) : List String :=
  (e.cause?.map BuildError.chain).getD []

end LinkageError

end StreetLinkage
