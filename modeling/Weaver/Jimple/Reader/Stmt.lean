import Weaver.Jimple.Reader.Value
import Weaver.Jimple.Stmt

/-!
# Reading Statements

A statement without its semicolon is a return, an identity statement, an invocation, an
assignment at the first ` = ` outside literals and references, or else code that is kept
as it stands.

## Main definitions

* `Stmt.read`: reading one statement.
-/

namespace Weaver

/-! ### Identity statements -/

/-- What an identity statement names on its right, before its type. -/
inductive IdentitySource where
  | this
  | parameter (digits : Text)
  | caughtException

/-- Cuts a source off the right-hand side of an identity statement. -/
def IdentitySource.cut? (s : Text) : Option (IdentitySource × Text) :=
  match Text.stripPrefix? "this".toList s with
  | some rest => some (.this, rest)
  | none =>
    match Text.stripPrefix? "caughtexception".toList s with
    | some rest => some (.caughtException, rest)
    | none =>
      match Text.stripPrefix? "parameter".toList s with
      | some rest =>
        match rest.takeWhile Char.isDigit with
        | [] => none
        | digits => some (.parameter digits, rest.dropWhile Char.isDigit)
      | none => none

/-- The type that may stand behind a source: nothing, or a colon, a space and a non-empty
text without line feeds. -/
def identityTail? (s : Text) : Option (Option Text) :=
  match s with
  | [] => some none
  | _ =>
    match Text.stripPrefix? ": ".toList s with
    | some ty => if ty.isEmpty || List.contains ty '\n' then none else some (some ty)
    | none => none

/-- The local, source and type of a text that has the form of an identity statement. -/
def identityParts? (s : Text) : Option (Text × IdentitySource × Option Text) :=
  match s.takeWhile fun c => !isBlank c with
  | [] => none
  | name => do
    let rest ← Text.stripPrefix? " := @".toList (s.dropWhile fun c => !isBlank c)
    let (source, rest) ← IdentitySource.cut? rest
    let ty ← identityTail? rest
    return (name, source, ty)

/-- Builds the right-hand side of an identity statement from its parts. -/
def IdentityRhs.ofParts (source : IdentitySource) (ty : Option Ty) :
    Except ReadFault IdentityRhs :=
  match source, ty with
  | .this, some ty => .ok (.this ty)
  | .caughtException, _ => .ok .caughtException
  | .parameter digits, some ty =>
    if natOfDigits digits < UInt64.size then .ok (.parameter (UInt64.ofNat (natOfDigits digits)) ty)
    else .error .parameterIndex
  | _, none => .error .identityForm

/-- Reads the type that an identity statement gives, if it gives one. -/
def readIdentityType (ty : Option Text) : Except ReadFault (Option Ty) :=
  match ty with
  | none => .ok none
  | some s =>
    match Ty.read? s with
    | some ty => .ok (some ty)
    | none => .error .identityType

/-! ### Statements -/

/-- Reads an assignment or keeps the text as it stands. -/
def Stmt.readAssign (s : Text) : Except ReadFault Stmt :=
  match Text.cutOutside? " = ".toList .outside s with
  | some (lhs, rhs) => do
    let lhs ← Value.read lhs
    let rhs ← Value.read rhs
    return .assign lhs rhs
  | none => .ok (.verbatim s)

/-- Reads a statement that is no return. -/
def Stmt.readEffect (s : Text) : Except ReadFault Stmt :=
  match identityParts? s with
  | some (name, source, ty) => do
    let ty ← readIdentityType ty
    let rhs ← IdentityRhs.ofParts source ty
    return .identity name rhs
  | none => do
    match ← Call.read? s with
    | some e => return .invoke e
    | none => Stmt.readAssign s

/-- Reads a statement without its semicolon. -/
def Stmt.read (s : Text) : Except ReadFault Stmt :=
  if s = "return".toList then .ok (.ret none)
  else
    match Text.stripPrefix? "return ".toList s with
    | some value => (Value.read value).map fun v => .ret (some v)
    | none => Stmt.readEffect s

end Weaver
