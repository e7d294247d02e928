import Weaver.Jimple.Fault
import Weaver.Jimple.Stmt

/-!
# Method Bodies

A body holds typed locals and a chain of statements. Every statement has a handle that
stays valid while other statements come and go: handles are issued in increasing order
and never a second time.

## Main definitions

* `Body`, with lookups by name, handle and position.
* `Body.insertBefore`, `Body.insertAfter`, `Body.append`, `Body.remove`: edits of the chain.
* `Body.addLocal`, `Body.generateLocal`, `Body.retypeLocal`: edits of the locals.
* `Value.ty?`: the static type of a value in a body.
-/

namespace Weaver

/-- A typed local variable. -/
structure Local where
  name : Text
  ty : Ty
deriving DecidableEq, Repr

/-- The locals and statements of a method. -/
structure Body where
  method : MethodRef
  locals : List Local
  stmts : List (StmtId × Stmt)
  /-- The index of the next handle to be issued, which is the number of those issued so far. It is
  assumed that fewer than 2 ^ 32 are issued for a body, so that a counter of 32 bits does not
  start again. -/
  nextId : Nat

namespace Body

/-- The body without locals and statements. -/
def empty (method : MethodRef) : Body :=
  { method, locals := [], stmts := [], nextId := 0 }

/-! ### Locals -/

/-- The local of that name. -/
def local? (b : Body) (name : Text) : Option Local :=
  b.locals.find? fun l => l.name == name

/-- Whether a local of that name is declared. -/
def declares (b : Body) (name : Text) : Bool :=
  (b.local? name).isSome

/-- Declares a local under a name that is still free. -/
def addLocal (b : Body) (l : Local) : Except Fault Body :=
  if b.declares l.name then .error (.duplicateLocal l.name)
  else .ok { b with locals := b.locals ++ [l] }

/-- The name with that number among those generated for a type. -/
def generatedName (ty : Ty) (n : Nat) : Text :=
  '$' :: ty.localLetter :: natText n

/-- The least number whose generated name is free. One more number than there are locals
is enough to find it. -/
def freshNumber (b : Body) (ty : Ty) : Nat :=
  ((List.range (b.locals.length + 1)).find? fun n => !b.declares (generatedName ty n)).getD
    b.locals.length

/-- Declares a new local of a type under the first free generated name. -/
def generateLocal (b : Body) (ty : Ty) : Local × Body :=
  let l : Local := { name := generatedName ty (b.freshNumber ty), ty }
  (l, { b with locals := b.locals ++ [l] })

/-- Replaces the first local of that name. -/
def replaceLocal (name : Text) (new : Local) : List Local → List Local
  | [] => []
  | l :: ls => if l.name = name then new :: ls else l :: replaceLocal name new ls

/-- Gives the local `name` a new name and type, also wherever a statement uses it. -/
def retypeLocal (b : Body) (name newName : Text) (ty : Ty) : Except Fault (Local × Body) :=
  if name ≠ newName ∧ b.declares newName then .error (.duplicateLocal newName)
  else if b.declares name then
    let l : Local := { name := newName, ty }
    .ok (l, { b with
      locals := replaceLocal name l b.locals
      stmts := b.stmts.map fun (id, s) => (id, s.rename name newName) })
  else .error (.unknownLocal name)

/-! ### Lookups in the chain -/

/-- The statements in order. -/
def statements (b : Body) : List Stmt :=
  b.stmts.map Prod.snd

/-- The handles in order. -/
def ids (b : Body) : List StmtId :=
  b.stmts.map Prod.fst

/-- The statement with that handle. -/
def get? (b : Body) (id : StmtId) : Option Stmt :=
  (b.stmts.find? fun (i, _) => i == id).map Prod.snd

/-- The position of a handle in the chain. -/
def position? (b : Body) (id : StmtId) : Option Nat :=
  b.stmts.findIdx? fun (i, _) => i == id

/-- The handle of the first statement. -/
def first? (b : Body) : Option StmtId :=
  b.ids.head?

/-- The handle of the last statement. -/
def last? (b : Body) : Option StmtId :=
  b.ids.getLast?

/-- The local that stands for the receiver: the first declared one that an identity
statement binds to it. -/
def thisLocal? (b : Body) : Option Local :=
  b.statements.findSome? fun s =>
    match s with
    | .identity name (.this _) => b.local? name
    | _ => none

/-- The handles of the returns without a value, in order. -/
def voidReturns (b : Body) : List StmtId :=
  (b.stmts.filter fun (_, s) => s.isVoidReturn).map Prod.fst

/-- The last return without a value in the text of the body. -/
def terminalReturn? (b : Body) : Option StmtId :=
  b.voidReturns.getLast?

/-! ### Edits of the chain -/

/-- Statements with consecutive handles from `start` on. -/
def numbered (start : Nat) : List Stmt → List (StmtId × Stmt)
  | [] => []
  | s :: ss => (⟨start⟩, s) :: numbered (start + 1) ss

/-- Inserts statements under new handles at a position of the chain. -/
def insertAt (b : Body) (position : Nat) (new : List Stmt) : List StmtId × Body :=
  let block := numbered b.nextId new
  (block.map Prod.fst, { b with
    stmts := b.stmts.take position ++ block ++ b.stmts.drop position
    nextId := b.nextId + new.length })

/-- Adds statements at the end. -/
def append (b : Body) (new : List Stmt) : List StmtId × Body :=
  b.insertAt b.stmts.length new

/-- Adds one statement at the end. -/
def push (b : Body) (s : Stmt) : StmtId × Body :=
  (⟨b.nextId⟩, { b with stmts := b.stmts ++ [(⟨b.nextId⟩, s)], nextId := b.nextId + 1 })

/-- Inserts statements directly before the one with the handle `anchor`. -/
def insertBefore (b : Body) (anchor : StmtId) (new : List Stmt) :
    Except Fault (List StmtId × Body) :=
  match b.position? anchor with
  | some i => .ok (b.insertAt i new)
  | none => .error (.unknownStmt anchor)

/-- Inserts statements directly after the one with the handle `anchor`. -/
def insertAfter (b : Body) (anchor : StmtId) (new : List Stmt) :
    Except Fault (List StmtId × Body) :=
  match b.position? anchor with
  | some i => .ok (b.insertAt (i + 1) new)
  | none => .error (.unknownStmt anchor)

/-- Takes a statement out of the chain. -/
def remove? (b : Body) (id : StmtId) : Option (Stmt × Body) :=
  match b.position? id with
  | none => none
  | some i => b.stmts[i]?.map fun (_, s) => (s, { b with stmts := b.stmts.eraseIdx i })

/-- Puts another statement under the first occurrence of a handle. -/
def setStmt (id : StmtId) (new : Stmt) : List (StmtId × Stmt) → List (StmtId × Stmt)
  | [] => []
  | (i, s) :: rest => if i = id then (i, new) :: rest else (i, s) :: setStmt id new rest

/-- Puts another statement under a handle of the chain. -/
def set (b : Body) (id : StmtId) (new : Stmt) : Body :=
  { b with stmts := setStmt id new b.stmts }

end Body

/-! ### Static types -/

/-- The static type of a value, as far as it is known. -/
def Value.ty? (b : Body) : Value → Option Ty
  | .var name => (b.local? name).map Local.ty
  | .const c => some c.ty
  | .alloc cls => some (.ref cls)
  | .instanceField _ field => some field.ty
  | .staticField field => some field.ty
  | .call e => some e.method.sig.ret
  | .verbatim _ => none

end Weaver
