import Weaver.Pass.Insertion
import Weaver.Pass.Substitution
import Weaver.Pass.Wrapping
import Weaver.Proofs.Jimple.Evolution

/-!
# Histories of Bodies

Whatever is done to a body, one operation after the other and whether it succeeds or fails,
its handles stay distinct, its locals keep distinct names, and statements neither change
places nor come back under a handle that was given up. The argument has one case for each
operation, and all of them are `Body.Evolves`: composite operations are chains of elementary
changes, cut short where they fail.

## Main definitions

* `BodyOp`, `BodyOp.run`: what can be done to a body, and the body it leaves.
* `Body.IsInitial`: the bodies that a history begins with.

## Main results

* `BodyOp.run_evolves`: **one operation**.
* `Body.history_sound`: **a whole history**.
-/

namespace Weaver

/-! ### Operations -/

/-- What can be done to a body. -/
inductive BodyOp where
  | push (s : Stmt)
  | append (new : List Stmt)
  | insertBefore (anchor : StmtId) (new : List Stmt)
  | insertAfter (anchor : StmtId) (new : List Stmt)
  | remove (id : StmtId)
  /-- Any change of a statement in its place. -/
  | set (id : StmtId) (new : Stmt)
  | addLocal (l : Local)
  | generateLocal (ty : Ty)
  | retypeLocal (name newName : Text) (ty : Ty)
  | commit (log : EditLog)
  | insertAtBeginning (new : List Stmt)
  | insertMatching (side : Side) (selects : Stmt → Bool) (new : List Stmt)
  | wrapFirstArgument (helper : MethodRef) (selects : Ty → Bool)
  | replaceType (scene : Scene) (old new : Text)

/-- The new body, or the old one if there is none. -/
def Body.orKeep {α : Type} (b : Body) (r : Except Fault (α × Body)) : Body :=
  match r with
  | .ok (_, b') => b'
  | .error _ => b

/-- The body that an operation leaves, be it successful or not. -/
def BodyOp.run (op : BodyOp) (b : Body) : Body :=
  match op with
  | push s => (b.push s).2
  | append new => (b.append new).2
  | insertBefore anchor new => b.orKeep (b.insertBefore anchor new)
  | insertAfter anchor new => b.orKeep (b.insertAfter anchor new)
  | remove id =>
    match b.remove? id with
    | some (_, b') => b'
    | none => b
  | set id new => b.set id new
  | addLocal l => b.orKeep ((b.addLocal l).map fun b' => ((), b'))
  | generateLocal ty => (b.generateLocal ty).2
  | retypeLocal name newName ty => b.orKeep (b.retypeLocal name newName ty)
  | commit log => (log.commit b).2
  | insertAtBeginning new => b.orKeep (b.insertAtBeginning new)
  | insertMatching side selects new => (b.insertMatching side selects new).2
  | wrapFirstArgument helper selects => (b.wrapFirstArgument helper selects).2
  | replaceType scene old new => (b.replaceType scene old new).2

/-- The body that operations leave, one after the other. -/
def BodyOp.runAll (ops : List BodyOp) (b : Body) : Body :=
  ops.foldl (fun b op => op.run b) b

/-- The bodies that a history begins with: an empty one, or one that the reader gives, on its
own or in a class. -/
inductive Body.IsInitial : Body → Prop where
  | empty (m : MethodRef) : IsInitial (.empty m)
  | read {method s : Text} {b : Body} (h : Body.read method s = .ok b) : IsInitial b
  | ofClass {s : Text} {c : Class} {m : Method} {b : Body} (h : Class.read s = .ok c)
    (hm : m ∈ c.methods) (hb : m.body = some b) : IsInitial b

/-- A history begins with a sound body. -/
theorem Body.IsInitial.sound {b : Body} (h : b.IsInitial) : b.Sound := by
  cases h with
  | empty m => exact Body.empty_sound m
  | read h => exact Body.read_sound h
  | ofClass h hm hb => exact Class.read_sound h hm hb

/-! ### Passes -/

namespace Body

/-- An operation that may fail evolves the body if it does so where it succeeds. -/
theorem orKeep_evolves {α : Type} {b : Body} {r : Except Fault (α × Body)}
    (h : ∀ a b', r = .ok (a, b') → b.Evolves b') : b.Evolves (b.orKeep r) := by
  cases r with
  | error fault => exact .refl b
  | ok r => exact h r.1 r.2 rfl

/-- Inserting at the beginning evolves the body. -/
theorem insertAtBeginning_evolves {b b' : Body} {new : List Stmt} {ids : List StmtId}
    (h : b.insertAtBeginning new = .ok (ids, b')) : b.Evolves b' := by
  unfold insertAtBeginning at h
  split at h
  · exact insertBefore_evolves h
  · have hb' : (b.append new).2 = b' := congrArg Prod.snd (Except.ok.inj h)
    exact hb' ▸ b.append_evolves new

/-- **One wrapped call**, also if it cannot be wrapped: the new local stays. -/
theorem wrapCall_evolves (helper : MethodRef) (b : Body) (id : StmtId) (ty : Ty) :
    b.Evolves (wrapCall helper b id ty).2 := by
  have hlocal := b.generateLocal_evolves ty
  unfold wrapCall
  dsimp only
  split
  · next kind base method first rest _ =>
    let call : Stmt := .invoke
      { kind, base, method, args := .var (b.generateLocal ty).1.name :: rest }
    have hset := hlocal.trans ((b.generateLocal ty).2.set_evolves id call)
    split
    · exact hset
    · next hinsert => exact hset.trans (insertBefore_evolves hinsert)
  · exact hlocal

/-- Wrapping calls evolves the body, however far it gets. -/
theorem wrapCalls_evolves (helper : MethodRef) (targets : List (StmtId × Ty)) (b : Body) :
    b.Evolves (wrapCalls helper targets b).2 := by
  induction targets generalizing b with
  | nil => exact .refl b
  | cons target rest ih =>
    obtain ⟨id, ty⟩ := target
    have hcall := b.wrapCall_evolves helper id ty
    rw [wrapCalls]
    split
    · next heq => rwa [heq] at hcall
    · next b' heq =>
      rw [heq] at hcall
      exact hcall.trans (ih b')

end Body

/-- **Renaming the locals of a class**, also if it fails half-way. -/
theorem Substitution.retypeAll_evolves (new : Text) (names : List Text) (b : Body) :
    b.Evolves (retypeAll new names b).2 := by
  induction names generalizing b with
  | nil => exact .refl b
  | cons name rest ih =>
    rw [retypeAll]
    split
    · exact .refl b
    · next b' h => exact (Body.retypeLocal_evolves h).trans (ih b')

/-- A substitution evolves the body, be it successful or not. -/
theorem Body.replaceType_evolves (b : Body) (scene : Scene) (old new : Text) :
    b.Evolves (b.replaceType scene old new).2 := by
  have hretype := Substitution.retypeAll_evolves new
    ((b.locals.filter fun l => l.ty.isClass old).map Local.name) b
  unfold Body.replaceType
  dsimp only
  split
  · next b' heq => rwa [heq] at hretype
  · next b' heq =>
    rw [heq] at hretype
    exact hretype.trans (EditLog.commit_evolves _ b')

/-! ### Histories -/

/-- **One operation**, whether it succeeds or fails. -/
theorem BodyOp.run_evolves (op : BodyOp) (b : Body) : b.Evolves (op.run b) := by
  cases op with
  | push s => exact b.push_evolves s
  | append new => exact b.append_evolves new
  | insertBefore anchor new => exact Body.orKeep_evolves fun _ _ => Body.insertBefore_evolves
  | insertAfter anchor new => exact Body.orKeep_evolves fun _ _ => Body.insertAfter_evolves
  | remove id =>
    rw [run]
    split
    · next h => exact Body.remove?_evolves h
    · exact .refl b
  | set id new => exact b.set_evolves id new
  | addLocal l =>
    refine Body.orKeep_evolves fun _ b' h => ?_
    cases hl : b.addLocal l with
    | error fault => simp [hl, Except.map] at h
    | ok b'' =>
      rw [hl, Except.map, Except.ok.injEq, Prod.mk.injEq] at h
      exact h.2 ▸ Body.addLocal_evolves hl
  | generateLocal ty => exact b.generateLocal_evolves ty
  | retypeLocal name newName ty => exact Body.orKeep_evolves fun _ _ => Body.retypeLocal_evolves
  | commit log => exact log.commit_evolves b
  | insertAtBeginning new => exact Body.orKeep_evolves fun _ _ => Body.insertAtBeginning_evolves
  | insertMatching side selects new => exact EditLog.commit_evolves _ b
  | wrapFirstArgument helper selects => exact b.wrapCalls_evolves helper _
  | replaceType scene old new => exact b.replaceType_evolves scene old new

/-- **Any number of operations evolves the body**, since each of them does. -/
theorem BodyOp.runAll_evolves (ops : List BodyOp) (b : Body) : b.Evolves (runAll ops b) := by
  induction ops generalizing b with
  | nil => exact .refl b
  | cons op rest ih => exact (op.run_evolves b).trans (ih _)

/-- **A whole history.** Take any state of a body, a later one, and one later still. The first
is sound; the handles that the first two share come in the same order in both; a handle that
was given up in between is not issued again; and what is new has a handle that the counter
had not reached. -/
theorem Body.history_sound {start : Body} (h : start.IsInitial)
    (before between after : List BodyOp) :
    let b := BodyOp.runAll before start
    let b' := BodyOp.runAll between b
    let b'' := BodyOp.runAll after b'
    b.Sound ∧ b'.ids.filter (· ∈ b.ids) = b.ids.filter (· ∈ b'.ids) ∧
      (∀ id ∈ b.ids, id ∉ b'.ids → id ∉ b''.ids) ∧
      b.nextId ≤ b'.nextId ∧ ∀ id ∈ b'.ids, id ∈ b.ids ∨ b.nextId ≤ id.index := by
  intro b b' b''
  have hb : b.Sound := (BodyOp.runAll_evolves before start).sound h.sound
  have hbetween : b.Evolves b' := BodyOp.runAll_evolves between b
  have hafter : b'.Evolves b'' := BodyOp.runAll_evolves after b'
  refine ⟨hb, hbetween.order hb, fun id hid hgone hback => ?_, hbetween.nextId_le,
    fun id hid => hbetween.mem_or_le hid⟩
  -- The handle has been issued, so only a statement that was still there could have it.
  have hissued := hb.ids_lt id hid
  have hle := hbetween.nextId_le
  obtain hstay | hnew := hafter.mem_or_le hback
  · exact hgone hstay
  · omega

namespace SampleHistory

/-- A method without code. -/
def method : MethodRef :=
  { cls := ⟨"a.Main".toList⟩, sig := { ret := .void, name := "run".toList, params := [] } }

/-- A local and two statements. -/
def before : List BodyOp :=
  [.addLocal { name := "x".toList, ty := .int }, .push (.verbatim "nop".toList), .push (.ret none)]

/-- The first statement goes; inserting before it fails, and so does a second local `x`. -/
def between : List BodyOp :=
  [.remove ⟨0⟩, .insertBefore ⟨0⟩ [.ret none], .addLocal { name := "x".toList, ty := .long }]

/-- A statement at the end and one in front of the return. -/
def after : List BodyOp :=
  [.append [.verbatim "nop".toList], .insertBefore ⟨1⟩ [.verbatim "nop".toList]]

/-- A history in which a statement is removed and two operations fail. -/
theorem history_sound_removed :
    let b := BodyOp.runAll before (.empty method)
    let b' := BodyOp.runAll between b
    b.Sound ∧ b.ids = [⟨0⟩, ⟨1⟩] ∧ b'.ids = [⟨1⟩] ∧ ⟨0⟩ ∉ (BodyOp.runAll after b').ids := by
  obtain ⟨hsound, -, hgone, -, -⟩ := Body.history_sound (.empty method) before between after
  exact ⟨hsound, rfl, rfl, hgone ⟨0⟩ (by decide) (by decide)⟩

end SampleHistory

end Weaver
