import Weaver.Jimple.Edit
import Weaver.Jimple.Scene

/-!
# Substituting a Class

In one body, a class is replaced by another one: locals of the class get a new name and
the new class as type, objects allocated into them become objects of the new class, and
their constructor calls go to the new class. An allocation changes only together with the
constructor call that follows it.

## Main definitions

* `SubstitutionReport`: what was changed and what was not.
* `Substitution.scan`: the edits of one pass over the statements.
* `Body.replaceType`: the substitution.
-/

namespace Weaver

/-! ### Reports -/

/-- Why a statement was not rewritten. -/
inductive SkipReason where
  /-- The allocated object is not stored in a local. -/
  | nonLocalTarget
  /-- The local in question does not have the new type. -/
  | missingLocal
  /-- The constructor does not exist on the new class. -/
  | unresolvedConstructor
deriving DecidableEq, Repr

/-- What a substitution warns of. -/
inductive SubstitutionWarning where
  | notInScene (new : Text)
  | abstractClass (new : Text)
  | notSubclass (new old : Text)
  /-- The allocation into a local stays since its constructor call stays. -/
  | allocationKept (base old : Text)
deriving DecidableEq, Repr

/-- The wording of a warning. -/
def SubstitutionWarning.message : SubstitutionWarning → Text
  | notInScene new => "replacement class ".toList ++ new ++ " is not in the scene".toList
  | abstractClass new => "replacement class ".toList ++ new ++ " is abstract".toList
  | notSubclass new old => new ++ " is not a subclass of ".toList ++ old
  | allocationKept base old =>
    "allocation into ".toList ++ base ++ " keeps ".toList ++ old ++
      " since its constructor was not rewritten".toList

/-- What a substitution did. -/
structure SubstitutionReport where
  /-- The old and new names of the locals with a new type. -/
  renamed : List (Text × Text)
  /-- The number of allocations and constructor calls on the new class. -/
  rewritten : Nat
  /-- The number of other statements that mention the old class. -/
  untouched : Nat
  /-- The statements that could not be rewritten. -/
  skipped : List (Text × SkipReason)
  warnings : List SubstitutionWarning

namespace Substitution

/-! ### Checks -/

/-- What to warn of before the substitution. -/
def checkReplacement (scene : Scene) (old new : Text) : List SubstitutionWarning :=
  match scene.class? ⟨new⟩ with
  | none => [.notInScene new]
  | some c =>
    (if c.isAbstract then [.abstractClass new] else []) ++
      if scene.isSubclass ⟨new⟩ ⟨old⟩ then [] else [.notSubclass new old]

/-! ### Locals -/

/-- The name that a local gets together with the new type. -/
def replacedName (name : Text) : Text :=
  "replaced_".toList ++ name

/-- Renames and retypes locals one after the other up to the first fault. -/
def retypeAll (new : Text) : List Text → Body → Except Fault (List (Text × Text)) × Body
  | [], b => (.ok [], b)
  | name :: rest, b =>
    match b.retypeLocal name (replacedName name) (.class_ new) with
    | .error fault => (.error fault, b)
    | .ok (_, b) =>
      let (outcome, b) := retypeAll new rest b
      (outcome.map ((name, replacedName name) :: ·), b)

/-! ### Statements -/

/-- An allocation that waits for the constructor call on its local. -/
structure Pending where
  base : Text
  id : StmtId
  replacement : Stmt

/-- What one pass over the statements has found so far. -/
structure Scan where
  pending : List Pending
  log : EditLog
  rewritten : Nat
  untouched : Nat
  skipped : List (Text × SkipReason)
  warnings : List SubstitutionWarning

namespace Scan

/-- Nothing found yet. -/
def empty : Scan :=
  { pending := [], log := [], rewritten := 0, untouched := 0, skipped := [], warnings := [] }

/-- Rewrites a statement. -/
def rewrite (r : Scan) (id : StmtId) (new : Stmt) : Scan :=
  { r with log := r.log ++ EditLog.replacement id new, rewritten := r.rewritten + 1 }

/-- Gives up on a statement. -/
def skip (r : Scan) (s : Stmt) (why : SkipReason) : Scan :=
  { r with skipped := r.skipped ++ [(s.text, why)] }

/-- Leaves a statement alone. -/
def leave (r : Scan) : Scan :=
  { r with untouched := r.untouched + 1 }

/-- The allocation that waits on a local. -/
def pending? (r : Scan) (base : Text) : Option Pending :=
  r.pending.find? fun p => p.base == base

/-- Forgets the allocation that waits on a local. -/
def dropPending (r : Scan) (base : Text) : Scan :=
  { r with pending := r.pending.filter fun p => p.base != base }

/-- Lets an allocation wait on its local. One that waits there already is rewritten: no
constructor call came for it. -/
def await (r : Scan) (p : Pending) : Scan :=
  let waiting := r.pending? p.base
  let r := r.dropPending p.base
  let r := { r with pending := r.pending ++ [p] }
  match waiting with
  | some q => r.rewrite q.id q.replacement
  | none => r

end Scan

/-- The method that a constructor call goes to once the old name is replaced in the text of
its reference. -/
def redirected? (scene : Scene) (old new : Text) (m : MethodRef) : Option MethodRef :=
  match MethodRef.read (Text.replaceAll old new m.text) with
  | .ok target => if (scene.method? target).isSome then some target else none
  | .error _ => none

/-- Rewrites a special call on the old class. -/
def rewriteSpecial (scene : Scene) (old new : Text) (retyped : List Text) (e : Invocation) :
    Except SkipReason Stmt :=
  match redirected? scene old new e.method with
  | none => .error .unresolvedConstructor
  | some target =>
    match e.base with
    | none => .error .missingLocal
    | some base =>
      if List.elem base retyped then
        .ok (.invoke { kind := .special, base := some base, method := target, args := e.args })
      else .error .missingLocal

/-- Takes an allocation of the old class. -/
def scanAllocation (new : Text) (retyped : List Text) (r : Scan) (id : StmtId) (s : Stmt)
    (lhs : Value) : Scan :=
  match lhs with
  | .var name =>
    if List.elem name retyped then
      r.await { base := name, id, replacement := .assignVar name (.alloc ⟨new⟩) }
    else r.skip s .missingLocal
  | _ => r.skip s .nonLocalTarget

/-- Takes a special call on the old class, together with the allocation that waits for
it. -/
def scanSpecial (scene : Scene) (old new : Text) (retyped : List Text) (r : Scan) (id : StmtId)
    (s : Stmt) (e : Invocation) : Scan :=
  let waiting := e.base.bind r.pending?
  let r :=
    match e.base with
    | some base => r.dropPending base
    | none => r
  match rewriteSpecial scene old new retyped e with
  | .ok replacement =>
    let r := r.rewrite id replacement
    match waiting with
    | some p => r.rewrite p.id p.replacement
    | none => r
  | .error why =>
    let r := r.skip s why
    match waiting with
    | some p => { r with warnings := r.warnings ++ [.allocationKept p.base old] }
    | none => r

/-- Takes one statement. -/
def scanStmt (scene : Scene) (old new : Text) (retyped : List Text) (r : Scan)
    (entry : StmtId × Stmt) : Scan :=
  let (id, s) := entry
  if !s.mentions old then r
  else
    match s with
    | .assign lhs (.alloc cls) =>
      if cls.chars = old then scanAllocation new retyped r id s lhs else r.leave
    | .invoke e =>
      if e.kind = .special ∧ e.method.cls.chars = old then
        scanSpecial scene old new retyped r id s e
      else r.leave
    | _ => r.leave

/-- Takes all statements of a body in order. -/
def scan (scene : Scene) (old new : Text) (retyped : List Text) (b : Body) : Scan :=
  b.stmts.foldl (scanStmt scene old new retyped) .empty

/-- Rewrites the allocations that still wait: no constructor call comes for them. -/
def flush (r : Scan) : Scan :=
  r.pending.foldl (fun r p => r.rewrite p.id p.replacement) r

end Substitution

/-! ### The substitution -/

/-- Replaces the class `old` by `new` in a body. A fault leaves the locals renamed so
far. -/
def Body.replaceType (b : Body) (scene : Scene) (old new : Text) :
    Except Fault SubstitutionReport × Body :=
  let names := (b.locals.filter fun l => l.ty.isClass old).map Local.name
  match Substitution.retypeAll new names b with
  | (.error fault, b) => (.error fault, b)
  | (.ok renamed, b) =>
    let r := Substitution.flush (Substitution.scan scene old new (renamed.map Prod.snd) b)
    let (outcome, b) := EditLog.commit r.log b
    (outcome.map fun _ =>
      { renamed, rewritten := r.rewritten, untouched := r.untouched, skipped := r.skipped
        warnings := Substitution.checkReplacement scene old new ++ r.warnings }, b)

end Weaver
