import Weaver.Jimple.Body

/-!
# Queued Edits

Edits that are collected while a body is looked at and carried out once the scan is over.
They are carried out in order up to the first that fails; what was done before stays done.

## Main definitions

* `Edit`, `EditLog`: an edit and a queue of edits.
* `EditLog.commit`: carry out a queue.
-/

namespace Weaver

/-- An edit of the chain of a body. -/
inductive Edit where
  | insertBefore (anchor : StmtId) (new : List Stmt)
  | insertAfter (anchor : StmtId) (new : List Stmt)
  | remove (id : StmtId)

/-- Carries out one edit and counts the inserted statements. -/
def Edit.apply (e : Edit) (b : Body) : Except Fault (Nat × Body) :=
  match e with
  | insertBefore anchor new => (b.insertBefore anchor new).map fun (ids, b) => (ids.length, b)
  | insertAfter anchor new => (b.insertAfter anchor new).map fun (ids, b) => (ids.length, b)
  | remove id =>
    match b.remove? id with
    | some (_, b) => .ok (0, b)
    | none => .error (.unknownStmt id)

/-- A queue of edits, the first one in front. -/
abbrev EditLog := List Edit

namespace EditLog

/-- Replaces a statement: the new one is inserted behind it and the old one removed. -/
def replacement (id : StmtId) (new : Stmt) : EditLog :=
  [.insertAfter id [new], .remove id]

/-- Carries out the edits in order, counting the inserted statements, up to the first
fault. -/
def commit : EditLog → Body → Except Fault Nat × Body
  | [], b => (.ok 0, b)
  | e :: rest, b =>
    match e.apply b with
    | .error fault => (.error fault, b)
    | .ok (n, b) =>
      let (outcome, b) := commit rest b
      (outcome.map (n + ·), b)

end EditLog

end Weaver
