import Weaver.Pattern.Escape

/-!
# Bracketed Classes in Patterns

Classes between brackets: characters, ranges, nested and named classes, and operators
between them that all bind alike and to the left.

## Main definitions

* `PatternReader.bracket`: read a bracketed class.
-/

namespace Weaver

/-! ### ASCII classes -/

/-- The characters of the ASCII class of that name. -/
def asciiClass? (name : Text) : Option CharSet :=
  let classes : List (String × CharSet) :=
    [("alnum", [(0x30, 0x39), (0x41, 0x5A), (0x61, 0x7A)]), ("alpha", [(0x41, 0x5A), (0x61, 0x7A)]),
      ("ascii", [(0, 0x7F)]), ("blank", [(0x9, 0x9), (0x20, 0x20)]),
      ("cntrl", [(0, 0x1F), (0x7F, 0x7F)]), ("digit", [(0x30, 0x39)]), ("graph", [(0x21, 0x7E)]),
      ("lower", [(0x61, 0x7A)]), ("print", [(0x20, 0x7E)]),
      ("punct", [(0x21, 0x2F), (0x3A, 0x40), (0x5B, 0x60), (0x7B, 0x7E)]),
      ("space", [(0x9, 0xD), (0x20, 0x20)]), ("upper", [(0x41, 0x5A)]),
      ("word", [(0x30, 0x39), (0x41, 0x5A), (0x5F, 0x5F), (0x61, 0x7A)]),
      ("xdigit", [(0x30, 0x39), (0x41, 0x46), (0x61, 0x66)])]
  (classes.find? fun (n, _) => n.toList == name).map Prod.snd

/-- The ASCII class that a text starts with, and the text behind it. -/
def cutAsciiClass? (s : Text) : Option (ClassSyntax × Text) := do
  let inner ← Text.stripPrefix? "[:".toList s
  let (negated, inner) :=
    match inner with
    | '^' :: inner => (true, inner)
    | inner => (false, inner)
  let (name, tail) ← Text.cutAtChar? ':' inner
  let tail ← Text.stripPrefix? "]".toList tail
  let set ← asciiClass? name
  return (.ascii set negated, tail)

/-! ### Open brackets -/

/-- A class whose closing bracket is still to come. -/
structure OpenClass where
  negated : Bool
  /-- The class on the left of an operator whose right side is being read. -/
  left : Option (ClassOperator × ClassSyntax)
  /-- The items of the union that is being read, the last one first. -/
  items : List ClassSyntax

namespace OpenClass

/-- A list of items as one class. -/
def unionOf : List ClassSyntax → ClassSyntax
  | [item] => item
  | items => .union items

/-- Everything read so far as one class. -/
def value (o : OpenClass) : ClassSyntax :=
  let right := unionOf o.items.reverse
  match o.left with
  | some (op, left) => .binary op left right
  | none => right

/-- Adds an item. -/
def push (o : OpenClass) (item : ClassSyntax) : OpenClass :=
  { o with items := item :: o.items }

/-- Goes on to the right side of an operator. -/
def operator (o : OpenClass) (op : ClassOperator) : OpenClass :=
  { o with left := some (op, o.value), items := [] }

/-- The class with its bracket closed. -/
def close (o : OpenClass) : ClassSyntax :=
  .bracketed o.negated o.value

end OpenClass

namespace PatternReader

/-! ### Items -/

/-- Reads one character or escape of a class. -/
def classItem : PatternReader PatternSyntax := do
  let c ← next
  if c = '\\' then escape
  else
    bump
    return .literal c false

/-- An item that is not the end of a range. -/
def itemOf : PatternSyntax → PatternReader ClassSyntax
  | .literal c _ => return .range c c
  | .cls c => return c
  | _ => failure

/-- An end of a range. -/
def charOf : PatternSyntax → PatternReader Char
  | .literal c _ => return c
  | _ => failure

/-- Reads an item or a range. A hyphen before another hyphen or the closing bracket begins
no range. -/
def classRange : PatternReader ClassSyntax := do
  let first ← classItem
  skip
  let c ← next
  let behind ← peekBehind?
  if c ≠ '-' ∨ behind = some ']' ∨ behind = some '-' then itemOf first
  else
    let _ ← advanceToNext
    let second ← classItem
    let low ← charOf first
    let high ← charOf second
    if low ≤ high then return .range low high else failure

/-- Reads the hyphens that a class may start with; `fuel` bounds their number. -/
def leadingHyphens : Nat → OpenClass → PatternReader OpenClass
  | 0, o => return o
  | fuel + 1, o => do
    if (← next) = '-' then
      let _ ← advanceToNext
      leadingHyphens fuel (o.push (.range '-' '-'))
    else return o

/-- Reads an opening bracket and the characters that mean themselves only there. -/
def openBracket : PatternReader OpenClass := do
  let first ← advanceToNext
  let negated := first == '^'
  if negated then
    let _ ← advanceToNext
  let o ← leadingHyphens (← rest).length { negated, left := none, items := [] }
  if o.items.isEmpty && (← next) == ']' then
    let _ ← advanceToNext
    return o.push (.range ']' ']')
  else return o

/-- The operator that stands next. -/
def classOperator? (s : Text) : Option ClassOperator :=
  match s with
  | '&' :: '&' :: _ => some .intersection
  | '-' :: '-' :: _ => some .difference
  | '~' :: '~' :: _ => some .symmetricDifference
  | _ => none

/-- Reads the rest of a class and of the classes around it, of which `outer` are open;
`fuel` bounds the number of items. -/
def bracketFrom : Nat → OpenClass → List OpenClass → PatternReader ClassSyntax
  | 0, _, _ => failure
  | fuel + 1, o, outer => do
    skip
    let s ← rest
    match s with
    | [] => failure
    | '[' :: _ =>
      match cutAsciiClass? s with
      | some (item, tail) =>
        setRest tail
        bracketFrom fuel (o.push item) outer
      | none => bracketFrom fuel (← openBracket) (o :: outer)
    | ']' :: _ =>
      bump
      match outer with
      | [] => return o.close
      | around :: outer => bracketFrom fuel (around.push o.close) outer
    | _ =>
      match classOperator? s with
      | some op =>
        setRest (s.drop 2)
        bracketFrom fuel (o.operator op) outer
      | none => bracketFrom fuel (o.push (← classRange)) outer

/-- Reads a bracketed class; the next character is the bracket. -/
def bracket : PatternReader ClassSyntax := do
  let size := (← rest).length
  bracketFrom size (← openBracket) []

end PatternReader

end Weaver
