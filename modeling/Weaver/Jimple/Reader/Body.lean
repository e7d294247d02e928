import Weaver.Jimple.Body
import Weaver.Jimple.Reader.Line
import Weaver.Jimple.Reader.Stmt

/-!
# Reading Bodies

A body is read one line at a time: declarations of locals first, then labels, statements
and switch blocks. `BodyReading` is what has been read so far together with what the next
line may be.

## Main definitions

* `BodyReading.step`: take one more line.
* `Body.read`: read a body on its own, with or without braces around it.
-/

namespace Weaver

/-! ### Declarations -/

/-- The words that begin a statement and never a declaration. -/
def stmtKeywords : List Text :=
  ["return".toList, "throw".toList, "goto".toList, "if".toList, "nop".toList,
    "breakpoint".toList, "entermonitor".toList, "exitmonitor".toList, "tableswitch".toList,
    "lookupswitch".toList, "catch".toList, "virtualinvoke".toList, "specialinvoke".toList,
    "interfaceinvoke".toList, "staticinvoke".toList, "dynamicinvoke".toList]

/-- The locals that a line declares, if it is a declaration. -/
def readDeclaration? (line : Text) : Option (List Local) := do
  let decl ← Text.stripSuffix? ";".toList line
  let (ty, names) ← Text.cutAtChar? ' ' decl
  if stmtKeywords.contains ty then none
  let ty ← Ty.read? ty
  let names := (Text.splitOn ',' names).map Text.trim
  if names.all isLocalName then return names.map fun name => { name, ty } else none

/-- Declares locals one after the other. -/
def Body.declareAll : List Local → Body → Except ReadFault Body
  | [], b => .ok b
  | l :: ls, b =>
    if b.declares l.name then .error (.duplicateLocal l.name)
    else Body.declareAll ls { b with locals := b.locals ++ [l] }

/-! ### One line at a time -/

/-- What the next line of a body may be. -/
inductive BodyPhase where
  | declarations
  | statements
  /-- A line of the switch that was opened on a line of that number; its lines so far. -/
  | switch (opened : Nat) (lines : List Text)

/-- A body that has been read so far. -/
structure BodyReading where
  body : Body
  phase : BodyPhase

namespace BodyReading

/-- The reading that has seen no line yet. -/
def start (method : MethodRef) : BodyReading :=
  { body := .empty method, phase := .declarations }

/-- Adds a statement. -/
def push (r : BodyReading) (s : Stmt) : BodyReading :=
  { body := (r.body.push s).2, phase := .statements }

/-- Takes a line that is a label, opens a switch or holds a statement. -/
def stepStatement (r : BodyReading) (line : Line) : Except ReadFault BodyReading :=
  match labelName? line.text with
  | some name => .ok (r.push (.label name))
  | none =>
    if Text.startsWith line.text "tableswitch".toList ||
        Text.startsWith line.text "lookupswitch".toList then
      .ok { r with phase := .switch line.number [line.text] }
    else
      match Text.stripSuffix? ";".toList line.text with
      | none => .error .statementEnd
      | some code => (Stmt.read code).map r.push

/-- Takes a line of a switch; its closing brace completes it. -/
def stepSwitch (r : BodyReading) (opened : Nat) (lines : List Text) (line : Text) : BodyReading :=
  if line = closingBrace ++ ";".toList then
    r.push (.verbatim (Text.join "\n".toList (lines ++ [closingBrace])))
  else { r with phase := .switch opened (lines ++ [line]) }

/-- Takes one more line, which does not close the body. -/
def step (r : BodyReading) (line : Line) : Except ReadFault BodyReading :=
  match r.phase with
  | .switch opened lines => .ok (r.stepSwitch opened lines line.text)
  | .statements => r.stepStatement line
  | .declarations =>
    match readDeclaration? line.text with
    | some locals => (Body.declareAll locals r.body).map fun body => { r with body }
    | none => { r with phase := .statements }.stepStatement line

/-- Whether a line closes the body. -/
def isClosedBy (r : BodyReading) (line : Text) : Bool :=
  match r.phase with
  | .switch .. => false
  | _ => line == closingBrace

/-- What is wrong when the text ends here and the body still had to be closed; `last` is
the number of the last line. -/
def openFault (r : BodyReading) (last : Nat) : Fault :=
  match r.phase with
  | .switch opened _ => .read opened .openSwitch
  | _ => .read last .openBody

end BodyReading

/-! ### Bodies on their own -/

/-- Reads the lines of a body without braces to the end of the text. -/
def Body.readLines : BodyReading → List Line → Except Fault Body
  | r, [] =>
    match r.phase with
    | .switch opened _ => .error (.read opened .openSwitch)
    | _ => .ok r.body
  | r, line :: rest =>
    if r.isClosedBy line.text then .error (.read line.number .strayBrace)
    else
      match r.step line with
      | .error why => .error (.read line.number why)
      | .ok r => Body.readLines r rest

/-- Reads the lines of a body behind its opening brace; `last` is the number of the last
line. -/
def Body.readBraced (last : Nat) : BodyReading → List Line → Except Fault Body
  | r, [] => .error (r.openFault last)
  | r, line :: rest =>
    if r.isClosedBy line.text then
      match rest with
      | [] => .ok r.body
      | extra :: _ => .error (.read extra.number .afterBody)
    else
      match r.step line with
      | .error why => .error (.read line.number why)
      | .ok r => Body.readBraced last r rest

/-- Reads the body of the method that `method` refers to. Braces around it are optional. -/
def Body.read (method s : Text) : Except Fault Body :=
  match MethodRef.read method with
  | .error bad => .error (.badSignature bad)
  | .ok m =>
    let lines := significantLines s
    match lines with
    | [] => .ok (.empty m)
    | first :: rest =>
      if first.text = openingBrace then Body.readBraced (lastNumber lines) (.start m) rest
      else Body.readLines (.start m) lines

end Weaver
