import Weaver.Proofs.Jimple.Chain
import Weaver.Proofs.Jimple.FreshLocals
import Weaver.Proofs.Jimple.RoundTrip.Class

/-!
# Reloadable Scenes

A class is reloadable if it is lexically well formed and all of its locals, used or not, are
called by names that may be used anywhere: code that uses one more of them is then still well
formed. Inserting statements, putting another one in the place of one, declaring locals and
putting a body under a method keep a scene reloadable.

## Main definitions

* `Body.Reloadable`, `Class.Reloadable`, `Scene.Reloadable`.
* `Stmt.IsBuilt`: a statement that may be put anywhere.

## Main results

* `Body.Reloadable.splice`: **what an edit of the chain has to ensure**.
* `Body.Reloadable.generateLocal`: generated locals.
* `Scene.rewriteBody_reloadable`: from bodies to scenes.
-/

namespace Weaver

/-- A well-formed body **all of whose locals** may be used anywhere. -/
structure Body.Reloadable (b : Body) : Prop extends Body.WellFormed b where
  usable : ∀ l ∈ b.locals, IsLocal l.name

/-- A well-formed class with such bodies. -/
structure Class.Reloadable (c : Class) : Prop extends Class.WellFormed c where
  usable : ∀ m ∈ c.methods, ∀ b, m.body = some b → ∀ l ∈ b.locals, IsLocal l.name

/-- A scene of such classes. -/
def Scene.Reloadable (s : Scene) : Prop :=
  ∀ c ∈ s.classes, c.Reloadable

/-- A well-formed statement that is not verbatim: it may be put anywhere, also in front. -/
structure Stmt.IsBuilt (s : Stmt) : Prop where
  form : s.WellFormed
  built : ∀ code, s ≠ .verbatim code

/-! ### Bodies -/

namespace Body

variable {b b' : Body}

/-- **Edits of the chain**: built statements may take the place of any others. -/
theorem Reloadable.splice (h : b.Reloadable) (hlocals : b'.locals = b.locals)
    {pre old new post : List Stmt} (hb : b.statements = pre ++ old ++ post)
    (hb' : b'.statements = pre ++ new ++ post) (hnew : ∀ s ∈ new, s.IsBuilt)
    (hne : new = [] → old = []) : b'.Reloadable where
  locals := hlocals ▸ h.locals
  distinct := hlocals ▸ h.distinct
  usable := hlocals ▸ h.usable
  stmts := by
    have hall := h.stmts
    rw [hb] at hall
    intro s hs
    rw [hb', List.mem_append, List.mem_append] at hs
    obtain (hs | hs) | hs := hs
    · exact hall s (List.mem_append_left _ (List.mem_append_left _ hs))
    · exact (hnew s hs).form
    · exact hall s (List.mem_append_right _ hs)
  first := by
    intro code hcode
    refine h.first code ?_
    rw [hb'] at hcode
    rw [hb]
    cases pre with
    | cons s pre => exact hcode
    | nil =>
      cases new with
      | nil =>
        rw [hne rfl]
        exact hcode
      | cons s new => exact absurd (Option.some.inj hcode) ((hnew s List.mem_cons_self).built code)

/-- Built statements in front of a statement. -/
theorem Reloadable.insertBefore (h : b.Reloadable) {anchor : StmtId} {new : List Stmt}
    {ids : List StmtId} (hnew : ∀ s ∈ new, s.IsBuilt)
    (hb : b.insertBefore anchor new = .ok (ids, b')) : b'.Reloadable := by
  obtain ⟨pre, s, post, hsplit, -, -, rfl⟩ := insertBefore_eq_ok hb
  have hold : b.statements = pre.map Prod.snd ++ [] ++ s :: post.map Prod.snd := by
    simp [statements, hsplit]
  exact h.splice rfl hold (by simp [statements]) hnew fun _ => rfl

/-- A built statement in the place of another one, under whatever handle. -/
theorem Reloadable.exchange (h : b.Reloadable) {pre post : List (StmtId × Stmt)} {e : StmtId × Stmt}
    (hsplit : b.stmts = pre ++ e :: post) (id : StmtId) {new : Stmt} (hnew : new.IsBuilt)
    (nextId : Nat) : Reloadable { b with stmts := pre ++ (id, new) :: post, nextId } := by
  have hold : b.statements = pre.map Prod.snd ++ [e.2] ++ post.map Prod.snd := by
    simp [statements, hsplit]
  have hone : ∀ s ∈ [new], s.IsBuilt := by simpa using hnew
  exact h.splice rfl hold (by simp [statements]) hone (by simp)

/-- The names of generated locals stand for nothing else. -/
theorem isLocal_generatedName (ty : Ty) (n : Nat) : IsLocal (generatedName ty n) where
  form := by
    have hletter : isNameStart ty.localLetter = true := by cases ty <;> rfl
    have hdigits : ((natText n).all fun c => c.isAlphanum || c == '_' || c == '$') = true := by
      rw [List.all_eq_true]
      intro c hc
      rw [Bool.or_assoc, Bool.or_eq_true]
      exact .inl (isAlphanum_iff.2 (.inr (isDigit_of_mem_natText hc)))
    rw [generatedName, isLocalName, hletter, hdigits]
    rfl
  notNull := fun h => absurd (List.cons.inj h).1 (by decide)
  free := not_mem_stmtKeywords List.mem_cons_self (by decide)
  notSwitch := rfl

/-- **Generated locals.** -/
theorem Reloadable.generateLocal (h : b.Reloadable) {ty : Ty} (hty : ty.WellFormed) :
    (b.generateLocal ty).2.Reloadable ∧ IsLocal (b.generateLocal ty).1.name := by
  obtain ⟨l, rfl, ⟨n, hname, hfree, -⟩, heq⟩ := b.isFresh_generateLocal ty
  have hlocal : IsLocal l.name := hname ▸ isLocal_generatedName l.ty n
  rw [heq]
  refine ⟨⟨⟨fun l' hl' => ?_, ?_, h.stmts, h.first⟩, fun l' hl' => ?_⟩, hlocal⟩
  · obtain hl' | hl' := List.mem_append.1 hl'
    · exact h.locals l' hl'
    · rw [List.mem_singleton.1 hl']
      exact ⟨hlocal.form, hty⟩
  · have hnd : (b.names ++ [l.name]).Nodup := by
      rw [← List.concat_eq_append]
      exact List.Nodup.concat hfree h.distinct
    have hnames := b.names_withLocals [l]
    rw [← List.map_singleton, ← hnames] at hnd
    exact hnd
  · obtain hl' | hl' := List.mem_append.1 hl'
    · exact h.usable l' hl'
    · rw [List.mem_singleton.1 hl']
      exact hlocal

end Body

/-! ### Scenes -/

/-- Only the name of its class matters to a method. -/
theorem Method.WellFormed.of_name {c c' : Class} {m : Method} (h : m.WellFormed c)
    (hname : c'.name = c.name) : m.WellFormed c' where
  sig := h.sig
  throws := h.throws
  owner := fun b hb => by rw [h.owner b hb, Class.refTo, Class.refTo, hname]
  body := h.body

namespace Scene

/-- The bodies of a reloadable scene are reloadable. -/
theorem Reloadable.body {s : Scene} (h : s.Reloadable) {m : MethodRef} {b : Body}
    (hb : s.body m = .ok b) : b.Reloadable :=
  EveryBody.of_body (fun c hc method hmethod b hb =>
    ⟨((h c hc).methods method hmethod).body b hb, (h c hc).usable method hmethod b hb⟩) hb

/-- **Another body under a method.** -/
theorem Reloadable.setBody {s : Scene} (h : s.Reloadable) {m : MethodRef} {old new : Body}
    (hold : s.body m = .ok old) (hnew : new.Reloadable) (hmethod : new.method = old.method) :
    (s.setBody m new).Reloadable := by
  obtain ⟨-, before, after, c, pre, post, method, hs, -, hms, -, -, hbody, hs'⟩ :=
    setBody_differsInBody hold new
  have hclasses := h
  rw [Scene.Reloadable, hs, List.forall_mem_append, List.forall_mem_cons] at hclasses
  obtain ⟨hbefore, hc, hafter⟩ := hclasses
  rw [Scene.Reloadable, hs', List.forall_mem_append, List.forall_mem_cons]
  refine ⟨hbefore, ?_, hafter⟩
  have hmethods := hc.methods
  have husable := hc.usable
  rw [hms, List.forall_mem_append, List.forall_mem_cons] at hmethods husable
  obtain ⟨hpre, hm, hpost⟩ := hmethods
  refine ⟨⟨hc.name, hc.superclass, hc.interfaces, hc.fields, ?_⟩, ?_⟩
  · rw [List.forall_mem_append, List.forall_mem_cons]
    refine ⟨fun m hm => (hpre m hm).of_name rfl, ⟨hm.sig, hm.throws, ?_, ?_⟩,
      fun m hm => (hpost m hm).of_name rfl⟩
    · rintro b ⟨rfl⟩
      exact hmethod.trans (hm.owner old hbody)
    · rintro b ⟨rfl⟩
      exact hnew.toWellFormed
  · rw [List.forall_mem_append, List.forall_mem_cons]
    refine ⟨husable.1, ?_, husable.2.2⟩
    rintro b ⟨rfl⟩
    exact hnew.usable

/-- Another body in one of its methods keeps the names of the classes. -/
theorem names_setBody (s : Scene) (m : MethodRef) (b : Body) :
    (s.setBody m b).classes.map Class.name = s.classes.map Class.name := by
  simp [Scene.setBody, name_updateBody]

/-- **From bodies to scenes**: a pass over one body that keeps it reloadable keeps the scene
reloadable. -/
theorem rewriteBody_reloadable {α ε : Type} {s s' : Scene} (h : s.Reloadable) {m : MethodRef}
    {liftFault : Fault → ε} {change : Body → Scene → Except ε α × Body} {result : α}
    (hs : s.rewriteBody m liftFault change = (.ok result, s'))
    (hchange : ∀ b b', s.body m = .ok b → b.Reloadable → change b s = (.ok result, b') →
      b'.Reloadable ∧ b'.method = b.method) :
    s'.Reloadable ∧ s'.classes.map Class.name = s.classes.map Class.name := by
  obtain ⟨e, he⟩ | ⟨b, b', result', hb, hrun, hok⟩ := s.rewriteBody_cases m liftFault change
  · rw [he] at hs
    cases hs
  · rw [hok, Prod.mk.injEq, Except.ok.injEq] at hs
    obtain ⟨rfl, rfl⟩ := hs
    obtain ⟨hnew, hmethod⟩ := hchange b b' hb (h.body hb) hrun
    exact ⟨h.setBody hb hnew hmethod, s.names_setBody m b'⟩

end Scene

end Weaver
