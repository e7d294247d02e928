import Weaver.Pattern.Reader
import Weaver.Pattern.Run

/-!
# Patterns

A pattern that is ready for use, the search for its first match and the replacement of
what it matches.

## Main definitions

* `Pattern.read?`: read a pattern.
* `Pattern.matches_`: whether a pattern matches somewhere in a text.
* `Pattern.replaceFirst`: replace the first match by a template.
* `PatternEngine`: any way of replacing what patterns match; `Pattern.engine` is the one here.
* `PatternEngine.replaceEach`, `Pattern.replaceEach`: apply several replacements one after the
  other.
* `TextPattern`: a pattern that has to match a whole text.
-/

namespace Weaver

/-- A pattern as a program, with the names of its groups. -/
structure Pattern where
  program : Array Instruction
  /-- The number of groups, the whole match included. -/
  groups : Nat
  names : List (Text × Nat)

namespace Pattern

/-- Reads a pattern; none that is malformed or too large. -/
def read? (s : Text) : Option Pattern := do
  let (p, cursor) ← PatternSyntax.read? s
  let r ← p.meaning?
  if r.weight ≤ Regex.maxWeight then
    return { program := r.program, groups := cursor.captures + 1, names := cursor.names }
  else none

/-- The slots of the first match in a text. -/
def search? (p : Pattern) (s : Text) : Option Slots :=
  PatternRun.search p.program (2 * p.groups) s

/-- Whether the pattern matches somewhere in a text. -/
def matches_ (p : Pattern) (s : Text) : Bool :=
  (p.search? s).isSome

/-! ### Templates -/

/-- The part of the text that a group has matched, empty if it has not. -/
def groupText (s : Text) (slots : Slots) (index : Nat) : Text :=
  match (slots[2 * index]?).join, (slots[2 * index + 1]?).join with
  | some start, some stop => (s.drop start).take (stop - start)
  | _, _ => []

/-- The number that a reference in a template consists of; a plus sign may stand before
it. -/
def referenceNumber? (reference : Text) : Option Nat :=
  let digits := (Text.stripPrefix? "+".toList reference).getD reference
  if isDigits digits then some (natOfDigits digits) else none

/-- The number of the group that a reference in a template means: a number, or the name of
a group. -/
def groupOf? (p : Pattern) (reference : Text) : Option Nat :=
  match referenceNumber? reference with
  | some index => some index
  | none => (p.names.find? fun (name, _) => name == reference).map Prod.snd

/-- The text that a reference stands for. -/
def referenced (p : Pattern) (s : Text) (slots : Slots) (reference : Text) : Text :=
  match p.groupOf? reference with
  | some index => groupText s slots index
  | none => []

/-- Whether a character may stand in a reference without braces. -/
def isReferenceChar (c : Char) : Bool :=
  c.isAlphanum || c == '_'

/-- The reference behind a dollar sign, and the text behind it. -/
def cutReference? (template : Text) : Option (Text × Text) :=
  match template with
  | '{' :: inner => Text.cutAtChar? '}' inner
  | _ =>
    match template.span isReferenceChar with
    | ([], _) => none
    | (reference, rest) => some (reference, rest)

/-- Replaces the references in a template; `fuel` bounds the number of its characters. -/
def expandFrom (p : Pattern) (s : Text) (slots : Slots) : Nat → Text → Text
  | 0, _ => []
  | _, [] => []
  | fuel + 1, '$' :: '$' :: rest => '$' :: expandFrom p s slots fuel rest
  | fuel + 1, '$' :: rest =>
    match cutReference? rest with
    | some (reference, rest) => p.referenced s slots reference ++ expandFrom p s slots fuel rest
    | none => '$' :: expandFrom p s slots fuel rest
  | fuel + 1, c :: rest => c :: expandFrom p s slots fuel rest

/-- A template with the matched texts in the place of its references. Two dollar signs are
one, and a dollar sign without a reference stands for itself. -/
def expand (p : Pattern) (s : Text) (slots : Slots) (template : Text) : Text :=
  expandFrom p s slots template.length template

/-- The text with the first match replaced by a template. -/
def replaceFirst (p : Pattern) (template s : Text) : Text :=
  match p.search? s with
  | none => s
  | some slots =>
    match (slots[0]?).join, (slots[1]?).join with
    | some start, some stop => s.take start ++ p.expand s slots template ++ s.drop stop
    | _, _ => s

end Pattern

/-! ### Engines -/

/-- A way of replacing what patterns match. Which patterns can be compiled and what they match is
up to the engine. -/
structure PatternEngine where
  /-- What makes of a template and a text the text with the first match replaced, if the pattern
  can be compiled. -/
  compile? : Text → Option (Text → Text → Text)

/-- The engine that reads patterns and looks for their first match. -/
def Pattern.engine : PatternEngine where
  compile? pattern := (Pattern.read? pattern).map Pattern.replaceFirst

/-- Applies replacements in order, each to its first match; fails at the first pattern that
cannot be compiled. -/
def PatternEngine.replaceEach (engine : PatternEngine) : List (Text × Text) → Text → Option Text
  | [], s => some s
  | (pattern, template) :: rest, s =>
    match engine.compile? pattern with
    | none => none
    | some replaceFirst => engine.replaceEach rest (replaceFirst template s)

/-- Applies replacements in order, each to its first match; fails at the first pattern that
cannot be read. -/
def Pattern.replaceEach (replacements : List (Text × Text)) (s : Text) : Option Text :=
  engine.replaceEach replacements s

/-! ### Patterns of whole texts -/

/-- A pattern that has to match a whole text. -/
structure TextPattern where
  pattern : Pattern

namespace TextPattern

/-- Reads a pattern of whole texts: it is put between the two ends of the text. -/
def read? (s : Text) : Option TextPattern :=
  (Pattern.read? ("^(?:".toList ++ s ++ ")$".toList)).map TextPattern.mk

/-- Whether the pattern matches the whole text. -/
def matches_ (p : TextPattern) (s : Text) : Bool :=
  p.pattern.matches_ s

end TextPattern

end Weaver
