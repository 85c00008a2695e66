import StreetLinkage.Text.Alphanumeric
import StreetLinkage.Text.Blank

/-!
# Log filters

A log filter is a list of directives divided by commas. A directive is a level, a target, or a target
with its level after an equals sign; a span in square brackets may stand behind the target or in its place.
A level is one of six words in any case of letters, or a number from 0 to 5. A word that is no level is a
target, so only a level after an equals sign can be wrong.
Letters, numbers and blanks are those of all scripts; levels are plain words of ASCII.
-/

namespace StreetLinkage.LogFilter

/-- Why a filter is refused. -/
inductive FilterError where
  /-- A directive does not start as a target or a level does. -/
  | directive
  /-- There is no such level. -/
  | level
  deriving DecidableEq, Repr

/-- The text of a refusal. -/
def FilterError.message : FilterError → String
  | directive => "Invalid log filter directive: invalid filter directive"
  | level =>
      "Invalid log filter directive: error parsing level filter: expected one of " ++
        "\"off\", \"error\", \"warn\", \"info\", \"debug\", \"trace\", or a number 0-5"

/-- The words for levels. -/
def levelNames : List String := ["off", "error", "warn", "info", "debug", "trace"]

/-- The highest level by number. -/
def maxLevel : Nat := 5

/-- Is the text a number of a level? A plus sign and zeros may come first. -/
def isLevelNumber (cs : List Char) : Bool :=
  let digits := match cs with
    | '+' :: rest => rest
    | rest => rest
  !digits.isEmpty && digits.all Char.isDigit &&
    digits.foldl (fun value c => 10 * value + (c.toNat - '0'.toNat)) 0 ≤ maxLevel

/-- Is the text a level? -/
def isLevel (cs : List Char) : Bool :=
  isLevelNumber cs || levelNames.contains (String.ofList (cs.map Char.toLower))

/-- May a target or a level start with the character? -/
def canStart (c : Char) : Bool :=
  Text.isAlphanumeric c || c == '-' || c == ':' || c == '_'

/-- What follows a span whose bracket is open. A span is a name, a field in braces, or a name with a field,
and it ends with its own bracket; no field is empty. -/
def afterSpan? (cs : List Char) : Option (List Char) :=
  match cs.dropWhile (fun c => c != ']' && c != '\x7b') with
  | ']' :: rest => some rest
  | '\x7b' :: '\x7d' :: _ => none
  | '\x7b' :: rest =>
      match rest.dropWhile (· != '\x7d') with
      | '\x7d' :: ']' :: rest => some rest
      | _ => none
  | _ => none

/-- The text after the equals sign of a directive, if it has one. Nothing but that sign may follow a
span. -/
def levelText? : List Char → Except FilterError (Option (List Char))
  | [] => .error .directive
  | c :: rest =>
      if c != '[' && !canStart c then .error .directive
      else
        match (c :: rest).dropWhile (fun c => c != '=' && c != '[') with
        | [] => .ok none
        | '[' :: rest =>
            match afterSpan? rest with
            | some [] => .ok none
            | some ('=' :: level) => .ok (some level)
            | _ => .error .directive
        | _ :: level => .ok (some level)

/-- Checks one directive. Blanks around it do not count for where the level starts, which is then
looked up in the directive as it is given. -/
def checkDirective (given : List Char) : Except FilterError Unit :=
  let directive := Text.trim given
  match levelText? directive with
  | .error e => .error e
  | .ok none => .ok ()
  | .ok (some level) =>
      let level := given.drop (directive.length - level.length)
      if level.isEmpty || isLevel level then .ok () else .error .level

/-- The pieces of a list between separators. -/
def splitOn (separator : Char) : List Char → List (List Char)
  | [] => [[]]
  | c :: rest =>
      let pieces := splitOn separator rest
      if c == separator then [] :: pieces
      else
        match pieces with
        | piece :: pieces => (c :: piece) :: pieces
        | [] => [[c]]

/-- Checks a filter: all its directives, the empty ones apart. -/
def check (filter : String) : Except FilterError Unit :=
  ((splitOn ',' filter.toList).filter (!·.isEmpty)).forM checkDirective

end StreetLinkage.LogFilter
