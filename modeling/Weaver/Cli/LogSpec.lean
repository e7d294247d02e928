import Weaver.Pattern.Basic
import Weaver.Text.Blank

/-!
# Log Specifications

A log specification lists modules and levels, separated by commas, and may end in a slash
and a pattern that messages are filtered by.

## Main definitions

* `LogSpec.isValid`: whether a text is a log specification.
-/

namespace Weaver.LogSpec

/-- The names of levels. -/
def levels : List Text :=
  ["off".toList, "error".toList, "warn".toList, "info".toList, "debug".toList,
    "trace".toList]

/-- Whether a text names a level, in letters of either case. -/
def isLevel (s : Text) : Bool :=
  List.elem (s.map Char.toLower) levels

/-- Whether a text can name a module. -/
def isModule (s : Text) : Bool :=
  !s.any isBlank

/-- Whether a part of a specification is well-formed: a module, a level, or both around an
equals sign. -/
def isPart (part : Text) : Bool :=
  match (Text.splitOn '=' (Text.trim part)).map Text.trim with
  | [name] => isModule name
  | [name, level] => isModule name && (level.isEmpty || isLevel level)
  | _ => false

/-- Whether a text can be the pattern of a specification. -/
def isFilter (s : Text) : Bool :=
  (TextPattern.read? s).isSome

/-- Whether a text is a log specification. -/
def isValid (s : Text) : Bool :=
  match Text.splitOn '/' s with
  | [parts] => (Text.splitOn ',' parts).all isPart
  | [parts, filter] => (Text.splitOn ',' parts).all isPart && isFilter filter
  | _ => false

end Weaver.LogSpec
