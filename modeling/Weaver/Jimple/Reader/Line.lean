import Weaver.Jimple.Fault
import Weaver.Text.Blank

/-!
# Significant Lines

Code is read line by line, without the white space around a line. Blank lines and lines
that begin with two slashes do not count.

## Main definitions

* `Line`: a line with its number in the text, counted from one.
* `significantLines`: the lines that count.
-/

namespace Weaver

/-- A line of code with its number, counted from one. -/
structure Line where
  number : Nat
  text : Text
deriving DecidableEq, Repr

/-- Whether a trimmed line is neither blank nor a comment. -/
def isSignificant (line : Text) : Bool :=
  !line.isEmpty && !Text.startsWith line "//".toList

/-- The lines that count, numbered from `number` on. -/
def significantFrom : Nat → List Text → List Line
  | _, [] => []
  | number, line :: rest =>
    let trimmed := Text.trim line
    if isSignificant trimmed then { number, text := trimmed } :: significantFrom (number + 1) rest
    else significantFrom (number + 1) rest

/-- The lines of a text that count. -/
def significantLines (s : Text) : List Line :=
  significantFrom 1 (Text.lines s)

/-- The number of the last line, or zero if there is none. -/
def lastNumber (lines : List Line) : Nat :=
  match lines.getLast? with
  | some line => line.number
  | none => 0

/-- Blames a line. -/
def Line.blame {α : Type} (line : Line) (r : Except ReadFault α) : Except Fault α :=
  match r with
  | .ok a => .ok a
  | .error why => .error (.read line.number why)

end Weaver
