import Weaver.Text.Decimal

/-!
# The Forms of Words

Recognisers for the names of locals and labels and for numeric constants.

## Main definitions

* `isLocalName`, `labelName?`.
* `longDigits?`, `isFloatText`, `isDoubleText`.
-/

namespace Weaver

/-- Whether a character may begin a name: a letter of the ASCII block or an underscore. -/
def isNameStart (c : Char) : Bool :=
  c.isAlpha || c == '_'

/-- Whether a text is the name of a local: an optional dollar sign, a letter or
underscore, then letters, digits, underscores and dollar signs. -/
def isLocalName : Text → Bool
  | '$' :: c :: rest => isNameStart c && rest.all fun c => c.isAlphanum || c == '_' || c == '$'
  | c :: rest => isNameStart c && rest.all fun c => c.isAlphanum || c == '_' || c == '$'
  | [] => false

/-- Whether a text is the name of a label: a letter or underscore, then letters, digits
and underscores. -/
def isLabelName : Text → Bool
  | c :: rest => isNameStart c && rest.all fun c => c.isAlphanum || c == '_'
  | [] => false

/-- The name of the label that a line declares. -/
def labelName? (line : Text) : Option Text :=
  match Text.stripSuffix? ":".toList line with
  | some name => if isLabelName name then some name else none
  | none => none

/-! ### Numbers -/

/-- The text behind a non-empty run of digits. -/
def skipDigits? : Text → Option Text
  | [] => none
  | c :: rest => if c.isDigit then some (rest.dropWhile Char.isDigit) else none

/-- The text behind an optional minus and a non-empty run of digits. -/
def skipInteger? : Text → Option Text
  | '-' :: rest => skipDigits? rest
  | s => skipDigits? s

/-- The text behind a point and digits. -/
def skipFraction? : Text → Option Text
  | '.' :: rest => skipDigits? rest
  | _ => none

/-- The text behind the digits of an exponent with an optional sign. -/
def skipSigned? : Text → Option Text
  | '+' :: rest => skipDigits? rest
  | s => skipInteger? s

/-- The text behind an exponent; the text itself if there is none. -/
def skipExponent (s : Text) : Text :=
  match s with
  | 'e' :: rest => (skipSigned? rest).getD s
  | 'E' :: rest => (skipSigned? rest).getD s
  | _ => s

/-- The signed digits before the final `L` of a long constant. -/
def longDigits? (s : Text) : Option Text :=
  Text.stripSuffix? "L".toList s

/-- Whether a text is a float constant: integer, optional fraction, optional exponent and
a final `F`. -/
def isFloatText (s : Text) : Bool :=
  match skipInteger? s with
  | some rest => skipExponent ((skipFraction? rest).getD rest) == ['F']
  | none => false

/-- Whether a text is a double constant: integer, fraction and optional exponent. -/
def isDoubleText (s : Text) : Bool :=
  match (skipInteger? s).bind skipFraction? with
  | some rest => skipExponent rest == []
  | none => false

end Weaver
