import Weaver.Jimple.Reference
import Weaver.Text.Decimal

/-!
# Faults

What can go wrong when code is read, looked up or edited, and the wording of each fault.

## Main definitions

* `ReadFault`: why a line of code is rejected.
* `Fault`: a rejected line, a malformed name or an edit that does not fit.
* `Fault.message`: the wording.
-/

namespace Weaver

/-- The handle of a statement within its body. Its index is a natural number; a counter of 32 bits
gives the same handles as long as fewer than 2 ^ 32 of them are issued. -/
structure StmtId where
  index : Nat
deriving DecidableEq, Repr, Inhabited

/-- The text between backquotes, in which messages cite code. -/
def cited (s : Text) : Text :=
  "\x60".toList ++ s ++ "\x60".toList

/-- The wording about a malformed signature or reference. -/
def BadSignature.message (bad : BadSignature) : Text :=
  "invalid signature ".toList ++ cited bad.text

/-- The wording about a name that a second local claims. -/
def duplicateLocalMessage (name : Text) : Text :=
  "local ".toList ++ cited name ++ " is already declared".toList

/-- Why a line of code is rejected. -/
inductive ReadFault where
  | emptyFile
  /-- Another line stands where `wanted` is needed, or none at all. -/
  | expected (wanted : Text) (found : Option Text)
  | noClassKeyword
  | noClassName
  | strayHeaderWords (words : Text)
  | fieldEnd
  | fieldType
  | fieldForm
  | methodHeader (line : Text)
  | reference (bad : BadSignature)
  | duplicateLocal (name : Text)
  | strayBrace
  | statementEnd
  | identityType
  | identityForm
  | parameterIndex
  | invocation (code : Text)
  | openClass
  | openBody
  | openSwitch
  | afterClass
  | afterBody
deriving DecidableEq, Repr

/-- The wording of a rejection. -/
def ReadFault.message : ReadFault → Text
  | emptyFile => "empty class file".toList
  | expected wanted (some found) =>
    "expected ".toList ++ cited wanted ++ ", found ".toList ++ cited found
  | expected wanted none => "expected ".toList ++ cited wanted ++ ", found end of input".toList
  | noClassKeyword =>
    "expected ".toList ++ cited "class".toList ++ " or ".toList ++ cited "interface".toList
  | noClassName => "missing class name".toList
  | strayHeaderWords words => "unexpected ".toList ++ cited words ++ " in class header".toList
  | fieldEnd => "field declaration must end with ".toList ++ cited ";".toList
  | fieldType => "invalid field type".toList
  | fieldForm => "invalid field declaration".toList
  | methodHeader line => "invalid method header ".toList ++ cited line
  | reference bad => bad.message
  | duplicateLocal name => duplicateLocalMessage name
  | strayBrace => "unexpected ".toList ++ cited closingBrace
  | statementEnd => "statement must end with ".toList ++ cited ";".toList
  | identityType => "bad type".toList
  | identityForm => "invalid identity statement".toList
  | parameterIndex => "bad parameter index".toList
  | invocation code => "invalid invocation ".toList ++ cited code
  | openClass => "unterminated class".toList
  | openBody => "unterminated body".toList
  | openSwitch => "unterminated switch".toList
  | afterClass => "trailing content after class".toList
  | afterBody => "trailing content after body".toList

/-- What can go wrong with code. -/
inductive Fault where
  /-- The line of that number, counted from one, is rejected; zero stands for no line. -/
  | read (line : Nat) (why : ReadFault)
  | badType (text : Text)
  | badSignature (bad : BadSignature)
  | unknownStmt (id : StmtId)
  | duplicateLocal (name : Text)
  | unknownLocal (name : Text)
  | unknownClass (name : Text)
  | unknownMethod (m : MethodRef)
  | noBody (m : MethodRef)
deriving DecidableEq, Repr

/-- The wording of a fault. -/
def Fault.message : Fault → Text
  | read line why => "line ".toList ++ natText line ++ ": ".toList ++ why.message
  | badType text => "invalid type ".toList ++ cited text
  | badSignature bad => bad.message
  | unknownStmt id =>
    "statement #".toList ++ natText id.index ++ " is not part of the body".toList
  | duplicateLocal name => duplicateLocalMessage name
  | unknownLocal name => "no local named ".toList ++ cited name
  | unknownClass name => "class ".toList ++ name ++ " is not in the scene".toList
  | unknownMethod m => "method ".toList ++ m.text ++ " is not in the scene".toList
  | noBody m => "method ".toList ++ m.text ++ " has no body".toList

end Weaver
