import Weaver.Pattern.Syntax
import Weaver.Text.Blank

/-!
# Reading Patterns Character by Character

A cursor is the rest of a pattern together with what the reader has to remember. In the
mode that ignores blanks, white space and comments between characters are passed over.

## Main definitions

* `Cursor`, `PatternReader`: the state and the readers.
* `PatternReader.bump`, `PatternReader.advance`: pass over one character, and over blanks
  behind it.
-/

namespace Weaver

/-- The state of a reader of patterns. -/
structure Cursor where
  rest : Text
  ignoreBlanks : Bool
  /-- The number of groups that capture so far. -/
  captures : Nat
  /-- The names of groups with their numbers. -/
  names : List (Text × Nat)

/-- A reader of a part of a pattern; it fails on text that is no pattern. -/
abbrev PatternReader := StateT Cursor Option

namespace PatternReader

/-- The text without the white space and comments it starts with; `inComment` tells that a
number sign stands before it on the same line. -/
def skipBlanks (inComment : Bool) : Text → Text
  | [] => []
  | c :: s =>
    if inComment then skipBlanks (c != '\n') s
    else if isBlank c then skipBlanks false s
    else if c = '#' then skipBlanks true s
    else c :: s

/-- The text that is left. -/
def rest : PatternReader Text :=
  return (← get).rest

/-- Continues with another text. -/
def setRest (s : Text) : PatternReader Unit :=
  modify fun c => { c with rest := s }

/-- The next character. -/
def peek? : PatternReader (Option Char) :=
  return (← rest).head?

/-- The next character, which has to be there. -/
def next : PatternReader Char := do
  match ← peek? with
  | some c => return c
  | none => failure

/-- Passes over one character. -/
def bump : PatternReader Unit := do
  setRest ((← rest).drop 1)

/-- The text from the next character on that counts. -/
def blanksSkipped : PatternReader Text := do
  let c ← get
  return if c.ignoreBlanks then skipBlanks false c.rest else c.rest

/-- Passes over white space and comments, if these do not count. -/
def skip : PatternReader Unit := do
  setRest (← blanksSkipped)

/-- Passes over one character and what does not count behind it. -/
def advance : PatternReader Unit := do
  bump
  skip

/-- Passes over one character, behind which another one has to follow. -/
def advanceToNext : PatternReader Char := do
  advance
  next

/-- Passes over a fixed text if it stands next. -/
def accept (s : String) : PatternReader Bool := do
  match Text.stripPrefix? s.toList (← rest) with
  | some tail =>
    setRest tail
    return true
  | none => return false

/-- The first character that is not blank; a number sign in front of it is passed over, but
not the comment that it begins. -/
def firstVisible? (s : Text) : Option Char :=
  match s.dropWhile isBlank with
  | '#' :: s => (s.dropWhile isBlank).head?
  | s => s.head?

/-- The character behind the next one, without the white space between them if that does
not count. -/
def peekBehind? : PatternReader (Option Char) := do
  let c ← get
  let tail := c.rest.drop 1
  return if c.ignoreBlanks then firstVisible? tail else tail.head?

end PatternReader

end Weaver
