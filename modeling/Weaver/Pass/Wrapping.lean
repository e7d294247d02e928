import Weaver.Jimple.Body

/-!
# Wrapping First Arguments

The first argument of selected calls is sent through a static helper method, whose result
the calls then use.

## Main definitions

* `Body.wrapTargets`: the calls to be changed.
* `Body.wrapFirstArgument`.
-/

namespace Weaver

namespace Body

/-- The type of the first argument of a call that stands on its own. -/
def firstArgumentType? (b : Body) : Stmt → Option Ty
  | .invoke e => e.args.head?.bind (Value.ty? b)
  | _ => none

/-- The calls whose first argument has a type that `selects` holds of, with this type. -/
def wrapTargets (b : Body) (selects : Ty → Bool) : List (StmtId × Ty) :=
  b.stmts.filterMap fun (id, s) =>
    match b.firstArgumentType? s with
    | some ty => if selects ty then some (id, ty) else none
    | none => none

/-- Sends the first argument of one call through the helper and into a new local. -/
def wrapCall (helper : MethodRef) (b : Body) (id : StmtId) (ty : Ty) : Except Fault Unit × Body :=
  let (wrapped, b) := b.generateLocal ty
  match b.get? id with
  | some (.invoke { kind, base, method, args := first :: rest }) =>
    let b := b.set id (.invoke { kind, base, method, args := .var wrapped.name :: rest })
    let call := .call { kind := .static, base := none, method := helper, args := [first] }
    match b.insertBefore id [.assignVar wrapped.name call] with
    | .error fault => (.error fault, b)
    | .ok (_, b) => (.ok (), b)
  | _ => (.ok (), b)

/-- Wraps calls one after the other up to the first fault. -/
def wrapCalls (helper : MethodRef) : List (StmtId × Ty) → Body → Except Fault Unit × Body
  | [], b => (.ok (), b)
  | (id, ty) :: rest, b =>
    match wrapCall helper b id ty with
    | (.error fault, b) => (.error fault, b)
    | (.ok _, b) => wrapCalls helper rest b

/-- Sends the first argument of every selected call through the helper and counts the
calls. A fault leaves the calls wrapped so far. -/
def wrapFirstArgument (b : Body) (helper : MethodRef) (selects : Ty → Bool) :
    Except Fault Nat × Body :=
  let targets := b.wrapTargets selects
  let (outcome, b) := wrapCalls helper targets b
  (outcome.map fun _ => targets.length, b)

end Body

end Weaver
