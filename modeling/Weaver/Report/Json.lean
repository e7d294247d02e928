import Weaver.Text.Decimal

/-!
# JSON Documents

The part of JSON that reports are made of, written with one entry on a line and two
blanks of indentation for each level.

## Main definitions

* `JsonValue`, `JsonValue.text`.
-/

namespace Weaver

/-- A JSON value; numbers are counts. -/
inductive JsonValue where
  | bool (b : Bool)
  | count (n : Nat)
  | string (s : Text)
  | array (items : List JsonValue)
  | object (fields : List (Text × JsonValue))

namespace JsonValue

/-- How a character is written inside a JSON string. -/
def escapedChar (c : Char) : Text :=
  match c with
  | '"' => "\\\"".toList
  | '\\' => "\\\\".toList
  | '\n' => "\\n".toList
  | '\r' => "\\r".toList
  | '\t' => "\\t".toList
  | c =>
    if c.toNat = 8 then "\\b".toList
    else if c.toNat = 12 then "\\f".toList
    else if c.toNat < 0x20 then
      "\\u00".toList ++ [Nat.digitChar (c.toNat / 16), Nat.digitChar (c.toNat % 16)]
    else [c]

/-- A JSON string. -/
def quoted (s : Text) : Text :=
  '"' :: s.flatMap escapedChar ++ ['"']

/-- The indentation of a level. -/
def indent (level : Nat) : Text :=
  List.replicate (2 * level) ' '

/-- Puts brackets around written entries, each of which gets a line of its own. -/
def bracketed (opening closing : Text) (level : Nat) (entries : List Text) : Text :=
  if entries.isEmpty then opening ++ closing
  else
    opening ++ '\n' ::
      Text.join ",\n".toList (entries.map fun entry => indent (level + 1) ++ entry) ++
      '\n' :: indent level ++ closing

mutual

/-- The written form of a value that stands on a line of the given level. -/
def textAt (level : Nat) : JsonValue → Text
  | bool true => "true".toList
  | bool false => "false".toList
  | count n => natText n
  | string s => quoted s
  | array items => bracketed ['['] [']'] level (itemTexts (level + 1) items)
  | object fields => bracketed openingBrace closingBrace level (fieldTexts (level + 1) fields)

/-- The written forms of the items of an array. -/
def itemTexts (level : Nat) : List JsonValue → List Text
  | [] => []
  | v :: vs => textAt level v :: itemTexts level vs

/-- The written forms of the fields of an object. -/
def fieldTexts (level : Nat) : List (Text × JsonValue) → List Text
  | [] => []
  | (name, v) :: fields => (quoted name ++ ": ".toList ++ textAt level v) :: fieldTexts level fields

end

/-- The written form of a value. -/
def text (v : JsonValue) : Text :=
  textAt 0 v

end JsonValue

end Weaver
