import Weaver.Jimple.Class

/-!
# The Written Form of Bodies and Classes

Members are indented by four blanks, statements by eight and labels by five. Locals are
declared in groups of one type, a blank line separates declarations from statements,
fields from methods, methods from each other and a label from what stands before it.

## Main definitions

* `Body.groups`: the declarations of the locals.
* `Body.text`, `Class.text`: the written forms.
-/

namespace Weaver

/-- So many blanks. -/
def blanks (n : Nat) : Text :=
  List.replicate n ' '

/-- The indentation of members. -/
def memberIndent : Text :=
  blanks 4

/-- The indentation of statements and declarations. -/
def stmtIndent : Text :=
  blanks 8

/-- The indentation of labels. -/
def labelIndent : Text :=
  blanks 5

/-- The indentation of the cases of a switch. -/
def caseIndent : Text :=
  blanks 12

/-! ### Bodies -/

namespace Body

/-- Adds a local to the group of its type, or as a group of its own at the end. -/
def addToGroups (l : Local) : List (Ty × List Text) → List (Ty × List Text)
  | [] => [(l.ty, [l.name])]
  | (ty, names) :: rest =>
    if ty = l.ty then (ty, names ++ [l.name]) :: rest else (ty, names) :: addToGroups l rest

/-- The names of locals by type, in the order of first declaration. -/
def groups (locals : List Local) : List (Ty × List Text) :=
  locals.foldl (fun gs l => addToGroups l gs) []

/-- The declaration of a group of locals. -/
def groupLine (group : Ty × List Text) : Text :=
  stmtIndent ++ group.1.text ++ ' ' :: Text.join ", ".toList group.2 ++ ";\n".toList

/-- The indentation of a line of a block: its first line and its braces stand at the level
of statements. -/
def blockIndent (isFirst : Bool) (line : Text) : Text :=
  if isFirst || line == openingBrace || line == closingBrace then stmtIndent else caseIndent

/-- The lines of a block; the last one ends the statement. -/
def blockText : Bool → List Text → Text
  | _, [] => []
  | isFirst, [line] => blockIndent isFirst line ++ line ++ ";\n".toList
  | isFirst, line :: rest => blockIndent isFirst line ++ line ++ '\n' :: blockText false rest

/-- A statement on its own line or lines. -/
def stmtText (isFirst : Bool) (s : Stmt) : Text :=
  match s with
  | .label _ => (if isFirst then [] else ['\n']) ++ labelIndent ++ s.text ++ ['\n']
  | .verbatim code =>
    if List.contains code '\n' then blockText true (Text.lines code)
    else stmtIndent ++ code ++ ";\n".toList
  | _ => stmtIndent ++ s.text ++ ";\n".toList

/-- Statements one below the other. -/
def stmtsText : List Stmt → Text
  | [] => []
  | s :: rest => stmtText true s ++ rest.flatMap (stmtText false)

/-- The written form of a body, with its braces. -/
def text (b : Body) : Text :=
  memberIndent ++ openingBrace ++ '\n' ::
    (groups b.locals).flatMap groupLine ++
    (if b.locals.isEmpty || b.stmts.isEmpty then [] else ['\n']) ++
    stmtsText b.statements ++
    memberIndent ++ closingBrace ++ ['\n']

end Body

/-! ### Classes -/

/-- Modifiers with a space behind each. -/
def modifiersPrefix (ms : List Modifier) : Text :=
  ms.flatMap fun m => m.keyword ++ [' ']

/-- The names of classes with commas between them. -/
def classList (cs : List ClassName) : Text :=
  Text.join ", ".toList (cs.map ClassName.chars)

namespace Field

/-- The declaration of a field on its own line. -/
def line (f : Field) : Text :=
  memberIndent ++ modifiersPrefix f.modifiers ++ f.ty.text ++ ' ' :: f.name ++ ";\n".toList

end Field

namespace Method

/-- The first line of a method, without its end. -/
def header (m : Method) : Text :=
  memberIndent ++ modifiersPrefix m.modifiers ++ m.sig.ret.text ++ ' ' :: m.sig.name ++
    '(' :: Text.join ", ".toList (m.sig.params.map Ty.text) ++ ")".toList ++
    (if m.throws.isEmpty then [] else " throws ".toList ++ classList m.throws)

/-- The written form of a method. -/
def text (m : Method) : Text :=
  match m.body with
  | some body => m.header ++ '\n' :: body.text
  | none => m.header ++ ";\n".toList

end Method

namespace Class

/-- Methods one below the other, with a blank line between neighbours. -/
def methodsText (ms : List Method) : Text :=
  Text.join "\n".toList (ms.map Method.text)

/-- The first line of a class. -/
def header (c : Class) : Text :=
  modifiersPrefix c.modifiers ++
    (if c.isInterface then "interface ".toList else "class ".toList) ++ c.name.chars ++
    (match c.superclass with
      | some s => " extends ".toList ++ s.chars
      | none => []) ++
    (if c.interfaces.isEmpty then [] else " implements ".toList ++ classList c.interfaces) ++
    "\n".toList

/-- The written form of a class. -/
def text (c : Class) : Text :=
  c.header ++ openingBrace ++ '\n' ::
    c.fields.flatMap Field.line ++
    (if c.fields.isEmpty || c.methods.isEmpty then [] else ['\n']) ++
    methodsText c.methods ++ closingBrace ++ ['\n']

end Class

end Weaver
