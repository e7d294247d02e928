import Weaver.Markup.Piece

/-!
# Attributes

Attributes follow the name of a tag. A malformed one does not make the others unreadable:
behind it the reader finds a place to go on.

## Main definitions

* `Attribute`, `Tag.attributes`: the attributes of a tag, with the faults among them.
* `Attribute.localName`: the name without its namespace.
* `Tag.attribute?`: the first attribute that is well-formed and has a certain name.
-/

namespace Weaver

/-- An attribute; its value is as it is written. -/
structure Attribute where
  name : Text
  value : Text
deriving DecidableEq, Repr

namespace Markup

/-- The part of a name behind the first colon, or the whole name. -/
def localName (name : Text) : Text :=
  match Text.cutAtChar? ':' name with
  | some (_, after) => after
  | none => name

/-- What the reader of attributes finds at a place: an attribute or a fault, and where it
goes on. -/
structure AttributeStep where
  /-- `none` for a fault. -/
  found : Option Attribute
  /-- The names that the next attributes may not have. -/
  names : List Text
  rest : Text

/-- The text from its first white space on. -/
def fromSpace (s : Text) : Text :=
  s.dropWhile fun c => !isSpace c

/-- Reads a value in quotes behind the equals sign. -/
def attributeValue (names : List Text) (name s : Text) : AttributeStep :=
  let fault (rest : Text) : AttributeStep := { found := none, names, rest }
  match s.dropWhile isSpace with
  | [] => fault []
  | c :: s =>
    if c = '"' ∨ c = '\'' then
      match Text.cutAtChar? c s with
      | some (value, rest) => { found := some { name, value }, names, rest }
      | none => fault []
    else fault (fromSpace (c :: s))

/-- Reads the attribute that a text begins with; it must not begin with white space.
A name that has been seen before is a fault, and so is a name without a value. -/
def attributeStep (names : List Text) : Text → AttributeStep
  | [] => { found := none, names, rest := [] }
  | c :: s =>
    let ends (c : Char) : Bool := c == '=' || isSpace c
    let name := c :: s.takeWhile fun c => !ends c
    let after := s.dropWhile fun c => !ends c
    match after.dropWhile isSpace with
    | '=' :: s =>
      if names.any (· == name) then { found := none, names, rest := fromSpace s }
      else attributeValue (name :: names) name s
    | rest => { found := none, names, rest }

/-- The attributes in a text, `none` for each fault; `fuel` bounds their number. -/
def attributesFrom : Nat → List Text → Text → List (Option Attribute)
  | 0, _, _ => []
  | fuel + 1, names, s =>
    let s := s.dropWhile isSpace
    if s.isEmpty then []
    else
      let step := attributeStep names s
      step.found :: attributesFrom fuel step.names step.rest

end Markup

/-- The name of an attribute without its namespace. -/
def Attribute.localName (a : Attribute) : Text :=
  Markup.localName a.name

namespace Tag

/-- The attributes of a tag, `none` for each fault. -/
def attributes (t : Tag) : List (Option Attribute) :=
  Markup.attributesFrom t.rest.length [] t.rest

/-- The attributes of a tag that has no faults. -/
def soundAttributes? (t : Tag) : Option (List Attribute) :=
  t.attributes.mapM id

/-- The value of the first attribute that satisfies `p`; faults are passed over. -/
def attribute? (t : Tag) (p : Attribute → Bool) : Option Text :=
  (t.attributes.reduceOption.find? p).map Attribute.value

/-- The name of a tag without its namespace. -/
def localName (t : Tag) : Text :=
  Markup.localName t.name

end Tag

end Weaver
