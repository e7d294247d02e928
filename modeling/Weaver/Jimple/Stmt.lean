import Weaver.Jimple.Value

/-!
# Statements

The statements of a method body. Control flow is kept in its written form; everything
that the passes rewrite has a shape of its own.

## Main definitions

* `Stmt`, with its written form `Stmt.text`.
* `Stmt.invocation?`: the invocation that a statement performs.
* `Stmt.rename`: replace one local by another.
-/

namespace Weaver

/-- What an identity statement binds its local to. -/
inductive IdentityRhs where
  | this (ty : Ty)
  | parameter (index : UInt64) (ty : Ty)
  | caughtException
deriving DecidableEq

/-- The written form of the right-hand side of an identity statement. -/
def IdentityRhs.text : IdentityRhs → Text
  | this ty => "@this: ".toList ++ ty.text
  | parameter index ty => "@parameter".toList ++ natText index.toNat ++ ": ".toList ++ ty.text
  | caughtException => "@caughtexception".toList

/-- The form of a statement. -/
inductive StmtKind where
  | identity
  | assign
  | invoke
  | ret
  | label
  | verbatim
deriving DecidableEq, Repr

/-- A statement of a method body. -/
inductive Stmt where
  | identity (name : Text) (rhs : IdentityRhs)
  | assign (lhs rhs : Value)
  | invoke (e : Invocation)
  | ret (value : Option Value)
  | label (name : Text)
  /-- A branch, switch, monitor, throw and so on, in its written form. -/
  | verbatim (code : Text)

namespace Stmt

/-- The assignment of a value to a local. -/
def assignVar (name : Text) (rhs : Value) : Stmt :=
  assign (.var name) rhs

/-- The form of a statement. -/
def kind : Stmt → StmtKind
  | identity .. => .identity
  | assign .. => .assign
  | invoke _ => .invoke
  | ret _ => .ret
  | label _ => .label
  | verbatim _ => .verbatim

/-- Whether the statement binds a parameter, the receiver or an exception. -/
def isIdentity : Stmt → Bool
  | identity .. => true
  | _ => false

/-- Whether the statement returns without a value. -/
def isVoidReturn : Stmt → Bool
  | ret none => true
  | _ => false

/-- The invocation that a statement performs, on its own or as the right-hand side of an
assignment. -/
def invocation? : Stmt → Option Invocation
  | invoke e => some e
  | assign _ (.call e) => some e
  | _ => none

/-- The written form of a statement, without the semicolon behind it. -/
def text : Stmt → Text
  | identity name rhs => name ++ " := ".toList ++ rhs.text
  | assign lhs rhs => lhs.text ++ " = ".toList ++ rhs.text
  | invoke e => e.text
  | ret none => "return".toList
  | ret (some v) => "return ".toList ++ v.text
  | label name => name ++ ":".toList
  | verbatim code => code

/-- Whether `needle` occurs in the written form. -/
def mentions (s : Stmt) (needle : Text) : Bool :=
  Text.contains s.text needle

/-- Replaces the local `old` by `new`. -/
def rename (old new : Text) : Stmt → Stmt
  | identity name rhs => identity (renameName old new name) rhs
  | assign lhs rhs => assign (lhs.rename old new) (rhs.rename old new)
  | invoke e => invoke (e.rename old new)
  | ret value => ret (value.map (Value.rename old new))
  | label name => label name
  | verbatim code => verbatim (Text.renameWord old new code)

end Stmt

end Weaver
