import Weaver.Jimple.Reader.Body
import Weaver.Jimple.Reader.Member

/-!
# Reading Classes

A class is read one line at a time, too: its header, an opening brace, its members with
their bodies, and a closing brace behind which nothing may follow.

## Main definitions

* `ClassReading.step`: take one more line.
* `Class.read`: read a class.
-/

namespace Weaver

/-- What the next line of a class may be. -/
inductive ClassPhase where
  /-- The brace that opens the class. -/
  | opening
  | members
  /-- The brace that opens the body of a method. -/
  | bodyOpening (m : Method)
  | body (m : Method) (r : BodyReading)
  | closed

/-- A class that has been read so far. -/
structure ClassReading where
  cls : Class
  phase : ClassPhase

namespace ClassReading

/-- Adds a method. -/
def addMethod (r : ClassReading) (m : Method) : ClassReading :=
  { cls := { r.cls with methods := r.cls.methods ++ [m] }, phase := .members }

/-- Adds a field. -/
def addField (r : ClassReading) (f : Field) : ClassReading :=
  { r with cls := { r.cls with fields := r.cls.fields ++ [f] } }

/-- Demands an opening brace. -/
def openBrace (line : Text) (next : ClassReading) : Except ReadFault ClassReading :=
  if line = openingBrace then .ok next else .error (.expected openingBrace (some line))

/-- Takes a line that is a member or closes the class. Lines without parentheses declare
fields. -/
def stepMember (r : ClassReading) (line : Text) : Except ReadFault ClassReading :=
  if line = closingBrace then .ok { r with phase := .closed }
  else if List.contains line '(' then
    match Method.readHeader line with
    | .error why => .error why
    | .ok (m, true) => .ok { r with phase := .bodyOpening m }
    | .ok (m, false) => .ok (r.addMethod m)
  else (Field.read line).map r.addField

/-- Takes one more line. -/
def step (r : ClassReading) (line : Line) : Except ReadFault ClassReading :=
  match r.phase with
  | .opening => openBrace line.text { r with phase := .members }
  | .members => r.stepMember line.text
  | .bodyOpening m =>
    openBrace line.text { r with phase := .body m (.start (r.cls.refTo m.sig)) }
  | .body m b =>
    if b.isClosedBy line.text then .ok (r.addMethod { m with body := some b.body })
    else (b.step line).map fun b => { r with phase := .body m b }
  | .closed => .error .afterClass

/-- Takes all lines in order. -/
def stepAll : ClassReading → List Line → Except Fault ClassReading
  | r, [] => .ok r
  | r, line :: rest =>
    match r.step line with
    | .error why => .error (.read line.number why)
    | .ok r => stepAll r rest

/-- The class, if nothing is missing at the end of the text; `last` is the number of the
last line. -/
def finish (r : ClassReading) (last : Nat) : Except Fault Class :=
  match r.phase with
  | .closed => .ok r.cls
  | .members => .error (.read last .openClass)
  | .opening | .bodyOpening _ => .error (.read last (.expected openingBrace none))
  | .body _ b => .error (b.openFault last)

end ClassReading

/-- Reads a class. -/
def Class.read (s : Text) : Except Fault Class :=
  let lines := significantLines s
  match lines with
  | [] => .error (.read 0 .emptyFile)
  | first :: rest =>
    match Class.readHeader first.text with
    | .error why => .error (.read first.number why)
    | .ok cls =>
      match ClassReading.stepAll { cls, phase := .opening } rest with
      | .error fault => .error fault
      | .ok r => r.finish (lastNumber lines)

end Weaver
