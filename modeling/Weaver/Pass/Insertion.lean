import Weaver.Jimple.Edit

/-!
# Inserting Statements

Statements are placed behind the prologue of a body, at its end, or around every statement
that a predicate selects.

## Main definitions

* `Body.prologueLength`, `Body.insertAtBeginning`, `Body.insertAtEnd`.
* `Body.insertMatching`: before or after every selected statement.
-/

namespace Weaver

/-- The side of a statement on which others are inserted. -/
inductive Side where
  | before
  | after
deriving DecidableEq, Repr

namespace Body

/-- Whether a statement on its own calls a method of that name. -/
def delegatesTo (name : Text) : Option Stmt → Bool
  | some (.invoke e) => e.method.sig.name == name
  | _ => false

/-- The number of statements of the prologue: the identity statements in front and at most
one call of a method named like the body's own directly behind them. -/
def prologueLength (b : Body) : Nat :=
  let bindings := (b.statements.takeWhile Stmt.isIdentity).length
  if delegatesTo b.method.sig.name b.statements[bindings]? then bindings + 1 else bindings

/-- Inserts statements directly behind the prologue. -/
def insertAtBeginning (b : Body) (new : List Stmt) : Except Fault (List StmtId × Body) :=
  match b.ids[b.prologueLength]? with
  | some anchor => b.insertBefore anchor new
  | none => .ok (b.append new)

/-- Inserts statements behind all others. -/
def insertAtEnd (b : Body) (new : List Stmt) : List StmtId × Body :=
  b.append new

/-- The edit that inserts statements on one side of another. -/
def insertion (side : Side) (anchor : StmtId) (new : List Stmt) : Edit :=
  match side with
  | .before => .insertBefore anchor new
  | .after => .insertAfter anchor new

/-- Inserts a copy of the statements on one side of every statement that `selects` holds
of, and counts these. Inserted statements are not looked at. -/
def insertMatching (b : Body) (side : Side) (selects : Stmt → Bool) (new : List Stmt) :
    Except Fault Nat × Body :=
  let anchors := (b.stmts.filter fun (_, s) => selects s).map Prod.fst
  let (outcome, b) := EditLog.commit (anchors.map fun id => insertion side id new) b
  (outcome.map fun _ => anchors.length, b)

end Body

end Weaver
