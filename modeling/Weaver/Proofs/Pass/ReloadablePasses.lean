import Weaver.Pass.Injection
import Weaver.Pass.Wrapping
import Weaver.Proofs.Jimple.Reloadable
import Weaver.Proofs.Jimple.Renaming.Statement
import Weaver.Proofs.Pass.InjectedCode
import Weaver.Proofs.Pass.Pairing

/-!
# Passes Keep Scenes Reloadable

What an injection, a wrapping and a substitution put into a body is well formed if the names
that they are given are: their statements are built from operands, and the locals that they
declare or rename get names that stand for nothing else. Each function of a pass has one law,
which says that it keeps what has been built so far reloadable.

## Main definitions

* `ListenerRegistry.WellFormed`, `Lifecycle.WellFormed`: names of the right form.

## Main results

* `CallSite.placeholder_reloadable`, `Body.buildCalls_reloadable`: the builder of an injection.
* `Body.injectCalls_reloadable`, `Body.wrapFirstArgument_reloadable`,
  `Body.replaceType_reloadable`: **each pass keeps a body reloadable**.
* `Scene.Reloadable.lifecycle`: what discovery finds has names of the right form.
-/

namespace Weaver

/-! ### Names that are given to the passes -/

/-- All callbacks have names of the right form. -/
def ListenerRegistry.WellFormed (r : ListenerRegistry) : Prop :=
  ∀ e ∈ r.entries, ∀ sig ∈ e.2, sig.WellFormed

/-- The class, the fields and the handlers have names of the right form. -/
structure Lifecycle.WellFormed (l : Lifecycle) : Prop where
  cls : l.cls.WellFormed
  fields : ∀ f ∈ l.listenerFields, IsWord f.name ∧ f.ty.WellFormed
  handlers : ∀ sig ∈ l.handlers, sig.WellFormed

/-- The callbacks of every interface have well-formed signatures. -/
theorem ListenerRegistry.WellFormed.callbacks {r : ListenerRegistry} (h : r.WellFormed)
    (interface : ClassName) : ∀ sig ∈ r.callbacks interface, sig.WellFormed := by
  unfold ListenerRegistry.callbacks
  split
  next sigs hfind => exact h _ (List.mem_of_find?_eq_some hfind)
  · simp

/-- **What discovery finds** has names of the right form. -/
theorem Scene.Reloadable.lifecycle {s : Scene} (h : s.Reloadable) {registry : ListenerRegistry}
    {source : HandlerSource} {sig : Signature} {l : Lifecycle}
    (hl : s.lifecycle registry source sig = .ok l) : l.WellFormed := by
  obtain ⟨-, c, handlers, hclass, -, hfields, hhandlers⟩ := lifecycle_eq_ok hl
  have hc : c.Reloadable := h c (List.mem_of_find?_eq_some hclass)
  have hname : c.name = l.cls := name_of_class? hclass
  refine ⟨hname ▸ hc.name, fun f hf => ?_, fun sig hsig => ?_⟩
  · rw [hfields] at hf
    exact hc.fields f (List.mem_of_mem_filter hf)
  · rw [hhandlers] at hsig
    obtain ⟨m, hm⟩ := Option.isSome_iff_exists.1 (List.mem_filter.1 hsig).2
    have hsame : m.sig = sig := by simpa using List.find?_some hm
    exact hsame ▸ (hc.methods m (List.mem_of_find?_eq_some hm)).sig

/-! ### Injection -/

/-- A block of built statements over the reloadable body of a method. -/
structure Block.Reloadable (m : MethodRef) (b : Block) : Prop where
  body : b.body.Reloadable
  owner : b.body.method = m
  stmts : ∀ s ∈ b.stmts, s.IsBuilt

namespace Block.Reloadable

variable {m : MethodRef} {b : Block}

/-- Adding a built statement keeps the block reloadable. -/
theorem push (h : b.Reloadable m) {s : Stmt} (hs : s.IsBuilt) : (b.push s).Reloadable m where
  body := h.body
  owner := h.owner
  stmts := by
    rw [Block.push, List.forall_mem_append]
    exact ⟨h.stmts, by simpa using hs⟩

/-- A generated local keeps the block reloadable, and its name is that of a local. -/
theorem generateLocal (h : b.Reloadable m) {ty : Ty} (hty : ty.WellFormed) :
    (b.generateLocal ty).2.Reloadable m ∧ IsLocal (b.generateLocal ty).1 := by
  obtain ⟨hbody, hname⟩ := h.body.generateLocal hty
  exact ⟨⟨hbody, h.owner, h.stmts⟩, hname⟩

/-- Steps that keep blocks reloadable do so in any number. -/
theorem foldl {α : Type} {step : Block → α → Block} {xs : List α}
    (hstep : ∀ b : Block, b.Reloadable m → ∀ x ∈ xs, (step b x).Reloadable m)
    (h : b.Reloadable m) : (xs.foldl step b).Reloadable m := by
  induction xs generalizing b with
  | nil => exact h
  | cons x xs ih =>
    exact ih (fun b hb y hy => hstep b hb y (List.mem_cons_of_mem x hy))
      (hstep b h x List.mem_cons_self)

end Block.Reloadable

namespace CallSite

/-- What the calls of an injection share is given back when it is read. -/
structure Usable (site : CallSite) : Prop where
  scene : site.scene.Reloadable
  this : IsLocal site.this
  context : IsLocal site.context

/-- The class of contexts has a well-formed name. -/
theorem wellFormed_contextClass : ClassName.WellFormed ⟨contextClass⟩ where
  chars := by decide
  head := ⟨'a', "ndroid.content.Context".toList, rfl, rfl, rfl⟩
  free := by decide

/-- The method that is asked for the context is well formed. -/
theorem wellFormed_applicationContext : applicationContext.WellFormed where
  cls := wellFormed_contextClass
  sig := {
    ret := wellFormed_contextClass
    name := by
      have hword : IsWord "getApplicationContext".toList := ⟨by decide, by decide⟩
      exact .inl hword
    params := by simp [applicationContext] }

/-- A call on a local. -/
theorem wellFormed_call {kind : CallKind} (hkind : kind ≠ .static) {base : Text}
    (hbase : IsLocal base) {m : MethodRef} (hm : m.WellFormed) {args : List Value}
    (hargs : ∀ v ∈ args, v.IsOperand) : Call.WellFormed ⟨kind, some base, m, args⟩ where
  static := iff_of_false (Option.some_ne_none _) hkind
  base := by
    rintro name ⟨rfl⟩
    exact hbase
  method := hm
  args := hargs

/-- The same as a statement of its own. -/
theorem isBuilt_invoke {kind : CallKind} (hkind : kind ≠ .static) {base : Text}
    (hbase : IsLocal base) {m : MethodRef} (hm : m.WellFormed) {args : List Value}
    (hargs : ∀ v ∈ args, v.IsOperand) : Stmt.IsBuilt (.invoke ⟨kind, some base, m, args⟩) :=
  ⟨wellFormed_call hkind hbase hm hargs, fun _ => Stmt.noConfusion⟩

/-- The assignment of a source to a local. -/
theorem isBuilt_assignVar {name : Text} (hname : IsLocal name) {v : Value} (hv : v.IsSource) :
    Stmt.IsBuilt (.assignVar name v) :=
  ⟨⟨hname, hv⟩, fun _ => Stmt.noConfusion⟩

variable {site : CallSite} {m : MethodRef} {b : Block}

/-- Building an object keeps the block reloadable. -/
theorem construct_reloadable (hsite : site.Usable) (cls : ClassName) (h : b.Reloadable m) :
    (site.construct cls b).1.IsOperand ∧ (site.construct cls b).2.Reloadable m := by
  have hspec := site.constructor?_spec cls
  cases hctor : site.constructor? cls with
  | none =>
    rw [construct, hctor]
    exact ⟨trivial, h⟩
  | some found =>
    obtain ⟨c, ctor, args⟩ := found
    rw [hctor] at hspec
    obtain ⟨rfl, c', hc', -, -, -, hargs⟩ := hspec
    have hname : c'.name = c.name := Scene.name_of_class? hc'
    have hc : c.name.WellFormed := hname ▸ (hsite.scene c' (List.mem_of_find?_eq_some hc')).name
    have hform : ctor.WellFormed ∧ ∀ v ∈ args, v.IsOperand := by
      obtain ⟨rfl, rfl⟩ | ⟨-, rfl, rfl⟩ := hargs
      · refine ⟨⟨trivial, .inr (.inl rfl), ?_⟩, ?_⟩
        · rintro ty hty
          rw [List.mem_singleton.1 hty]
          exact wellFormed_contextClass
        · rintro v hv
          rw [List.mem_singleton.1 hv]
          exact hsite.context
      · exact ⟨⟨trivial, .inr (.inl rfl), by simp [plainConstructor]⟩, by simp⟩
    have hty : Ty.WellFormed (.ref c.name) := hc
    obtain ⟨hb, hlocal⟩ := h.generateLocal hty
    simp only [construct, hctor]
    have halloc : Value.IsOperand (.alloc c.name) := hc
    exact ⟨hlocal, (hb.push (isBuilt_assignVar hlocal (.inl halloc))).push
      (isBuilt_invoke (by decide) hlocal ⟨hc, hform.1⟩ hform.2)⟩

/-- **An argument** is an operand. -/
theorem placeholder_reloadable (hsite : site.Usable) (ty : Ty) (h : b.Reloadable m) :
    (site.placeholder ty b).1.IsOperand ∧ (site.placeholder ty b).2.Reloadable m := by
  unfold placeholder
  split
  next hprim =>
    refine ⟨?_, h⟩
    cases ty with
    | float => exact (by decide : isFloatText "0.0F".toList = true)
    | double => exact (by decide : isDoubleText "0.0".toList = true)
    | _ => exact trivial
  · split
    · exact ⟨trivial, h⟩
    · split
      · exact ⟨hsite.context, h⟩
      · split
        next cls _ => exact construct_reloadable hsite cls h
        · exact ⟨trivial, h⟩

/-- Placeholders for any number of parameters keep the block reloadable. -/
theorem placeholders_reloadable (hsite : site.Usable) (tys : List Ty) (h : b.Reloadable m) :
    (∀ v ∈ (site.placeholders tys b).1, v.IsOperand) ∧
      (site.placeholders tys b).2.Reloadable m := by
  induction tys generalizing b with
  | nil => exact ⟨by simp [placeholders], h⟩
  | cons ty tys ih =>
    obtain ⟨hv, hb⟩ := placeholder_reloadable hsite ty h
    obtain ⟨hvs, hb'⟩ := ih hb
    simp only [placeholders, List.forall_mem_cons]
    exact ⟨⟨hv, hvs⟩, hb'⟩

/-- **A listener**: its load and its callbacks. -/
theorem callListener_reloadable (hsite : site.Usable) {cls : ClassName} (hcls : cls.WellFormed)
    {registry : ListenerRegistry} (hregistry : registry.WellFormed) (h : b.Reloadable m) {f : Field}
    (hf : IsWord f.name ∧ f.ty.WellFormed) :
    (site.callListener cls registry b f).Reloadable m := by
  unfold callListener
  split
  · exact h
  next interface hinterface =>
    have hty : interface.WellFormed := by
      have := hf.2
      rwa [Ty.className?_eq_some.1 hinterface] at this
    obtain ⟨hb, hlocal⟩ := h.generateLocal hf.2
    have hfield : (f.refIn cls).WellFormed := ⟨hcls, hf.2, hf.1⟩
    have hvalue : (site.fieldValue cls f).IsSource := by
      unfold fieldValue
      split
      · exact .inl hfield
      · exact .inl ⟨hsite.this, hfield⟩
    have hload := hb.push (isBuilt_assignVar hlocal hvalue)
    refine Block.Reloadable.foldl (fun b hb sig hsig => ?_) hload
    obtain ⟨hargs, hb'⟩ := placeholders_reloadable hsite sig.params hb
    exact hb'.push (isBuilt_invoke (by decide) hlocal
      ⟨hty, hregistry.callbacks interface sig hsig⟩ hargs)

/-- **A handler**: its call. -/
theorem callHandler_reloadable (hsite : site.Usable) {cls : ClassName} (hcls : cls.WellFormed)
    (h : b.Reloadable m) {sig : Signature} (hsig : sig.WellFormed) :
    (site.callHandler cls b sig).Reloadable m := by
  obtain ⟨hargs, hb⟩ := placeholders_reloadable hsite sig.params h
  exact hb.push (isBuilt_invoke (by decide) hsite.this ⟨hcls, hsig⟩ hargs)

end CallSite

namespace Body

variable {b b' : Body}

/-- **The context** is held by a local. -/
theorem provideContext_reloadable (h : b.Reloadable) {this : Text} (hthis : IsLocal this) :
    IsLocal (b.provideContext this).1 ∧ (b.provideContext this).2.Reloadable b.method := by
  have hempty : Block.Reloadable b.method ⟨b, []⟩ := ⟨h, rfl, by simp⟩
  cases hcontext : b.contextLocal? with
  | some name =>
    obtain ⟨before, l, after, hb, rfl, -, -⟩ := contextLocal?_eq_some hcontext
    simp only [provideContext, hcontext]
    exact ⟨h.usable l (by simp [hb]), hempty⟩
  | none =>
    have hty : Ty.WellFormed (.class_ contextClass) := CallSite.wellFormed_contextClass
    obtain ⟨hb, hlocal⟩ := hempty.generateLocal hty
    have hcall : Value.IsSource (contextCall this) := .inr (.inl ⟨_, rfl,
      CallSite.wellFormed_call (by decide) hthis CallSite.wellFormed_applicationContext (by simp)⟩)
    simp only [provideContext, hcontext]
    exact ⟨hlocal, hb.push (CallSite.isBuilt_assignVar hlocal hcall)⟩

/-- **The whole block** is built. -/
theorem buildCalls_reloadable (h : b.Reloadable) {s : Scene} (hs : s.Reloadable)
    {lifecycle : Lifecycle} (hlifecycle : lifecycle.WellFormed) {registry : ListenerRegistry}
    (hregistry : registry.WellFormed) {this : Text} (hthis : IsLocal this) :
    (b.buildCalls s lifecycle registry this).2.Reloadable b.method := by
  obtain ⟨hcontext, hb⟩ := b.provideContext_reloadable h hthis
  have hsite : CallSite.Usable ⟨s, this, (b.provideContext this).1⟩ := ⟨hs, hthis, hcontext⟩
  refine Block.Reloadable.foldl (fun b hb sig hsig => ?_) (hb.foldl fun b hb f hf => ?_)
  · exact CallSite.callHandler_reloadable hsite hlifecycle.cls hb (hlifecycle.handlers sig hsig)
  · exact CallSite.callListener_reloadable hsite hlifecycle.cls hregistry hb
      (hlifecycle.fields f hf)

/-- The receiver is held by a local. -/
theorem mem_of_thisLocal? {this : Local} (h : b.thisLocal? = some this) : this ∈ b.locals := by
  obtain ⟨s, -, hs⟩ := List.exists_of_findSome?_eq_some h
  split at hs
  · exact List.mem_of_find?_eq_some hs
  · cases hs

/-- **An injection** keeps a body reloadable. -/
theorem injectCalls_reloadable (h : b.Reloadable) {s : Scene} (hs : s.Reloadable)
    {lifecycle : Lifecycle} (hlifecycle : lifecycle.WellFormed) {registry : ListenerRegistry}
    (hregistry : registry.WellFormed) {report : InjectionReport}
    (hb : b.injectCalls s lifecycle registry = (.ok report, b')) :
    b'.Reloadable ∧ b'.method = b.method := by
  cases hreturn : b.terminalReturn? with
  | none => simp [injectCalls, hreturn] at hb
  | some anchor =>
    cases hthis : b.thisLocal? with
    | none => simp [injectCalls, hreturn, hthis] at hb
    | some this =>
      have hblock := buildCalls_reloadable h hs hlifecycle hregistry
        (h.usable this (mem_of_thisLocal? hthis))
      simp only [injectCalls, hreturn, hthis] at hb
      split at hb
      · cases hb
      next ids body hinsert =>
        rw [Prod.mk.injEq] at hb
        obtain ⟨-, rfl⟩ := hb
        refine ⟨hblock.body.insertBefore hblock.stmts hinsert, ?_⟩
        obtain ⟨-, -, -, -, -, -, rfl⟩ := insertBefore_eq_ok hinsert
        exact hblock.owner

end Body

/-! ### Wrapping -/

namespace Body

variable {b b' : Body}

/-- The static type of an operand has names of the right form. -/
theorem Reloadable.wellFormed_ty? (h : b.Reloadable) {v : Value} (hv : v.IsOperand) {ty : Ty}
    (hty : v.ty? b = some ty) : ty.WellFormed := by
  cases v with
  | var name =>
    obtain ⟨l, hl, rfl⟩ := Option.map_eq_some_iff.1 hty
    exact (h.locals l (List.mem_of_find?_eq_some hl)).2
  | const c =>
    obtain rfl := Option.some.inj hty
    have hclass : ClassName.WellFormed ⟨"java.lang.Class".toList⟩ :=
      ⟨by decide, ⟨'j', "ava.lang.Class".toList, rfl, rfl, rfl⟩, by decide⟩
    have hstring : ClassName.WellFormed ⟨stringClass⟩ :=
      ⟨by decide, ⟨'j', "ava.lang.String".toList, rfl, rfl, rfl⟩, by decide⟩
    cases c with
    | class_ name => exact hclass
    | string value => exact hstring
    | _ => exact trivial
  | alloc cls =>
    obtain rfl := Option.some.inj hty
    exact hv
  | instanceField base field =>
    obtain rfl := Option.some.inj hty
    exact hv.2.ty
  | staticField field =>
    obtain rfl := Option.some.inj hty
    exact FieldRef.WellFormed.ty hv
  | call e => cases hv
  | verbatim code => cases hv

/-- The selected calls have first arguments of types with names of the right form. -/
theorem Reloadable.wrapTargets (h : b.Reloadable) (selects : Ty → Bool) :
    ∀ target ∈ b.wrapTargets selects, target.2.WellFormed := by
  rintro ⟨id, ty⟩ htarget
  obtain ⟨⟨id', s⟩, hs, hsome⟩ := List.mem_filterMap.1 htarget
  dsimp only at hsome
  split at hsome
  next ty' hty =>
    split at hsome
    · obtain ⟨rfl, rfl⟩ := Prod.mk.inj (Option.some.inj hsome)
      cases s with
      | invoke e =>
        obtain ⟨v, hv, hty⟩ := Option.bind_eq_some_iff.1 hty
        have he : Call.WellFormed e := h.stmts (.invoke e) (List.mem_map_of_mem hs)
        exact h.wellFormed_ty? (he.args v (List.mem_of_head? hv)) hty
      | _ => cases hty
    · cases hsome
  · cases hsome

/-- **One call** through the helper. -/
theorem wrapCall_reloadable (h : b.Reloadable) {helper : MethodRef} (hhelper : helper.WellFormed)
    (id : StmtId) {ty : Ty} (hty : ty.WellFormed) {u : Unit}
    (hb : wrapCall helper b id ty = (.ok u, b')) : b'.Reloadable ∧ b'.method = b.method := by
  obtain ⟨hnew, hlocal⟩ := h.generateLocal hty
  unfold wrapCall at hb
  dsimp only at hb
  split at hb
  next kind base method first rest hget =>
    obtain ⟨pre, post, hsplit, hpre⟩ := exists_split_of_get? hget
    have hcall : Call.WellFormed ⟨kind, base, method, first :: rest⟩ :=
      hnew.stmts (.invoke _) (by simp [statements, hsplit])
    have hargs := hcall.args
    rw [List.forall_mem_cons] at hargs
    have hlater : Stmt.IsBuilt (.invoke ⟨kind, base, method,
        .var (b.generateLocal ty).1.name :: rest⟩) := by
      refine ⟨⟨hcall.static, hcall.base, hcall.method, ?_⟩, fun _ => Stmt.noConfusion⟩
      rw [List.forall_mem_cons]
      exact ⟨hlocal, hargs.2⟩
    have hfirst : Stmt.IsBuilt (.assignVar (b.generateLocal ty).1.name
        (.call ⟨.static, none, helper, [first]⟩)) := by
      refine CallSite.isBuilt_assignVar hlocal (.inr (.inl ⟨_, rfl, ?_⟩))
      exact ⟨iff_of_true rfl rfl, by simp, hhelper, by simpa using hargs.1⟩
    rw [set_of_split hsplit hpre] at hb
    split at hb
    · cases hb
    next ids b'' hinsert =>
      obtain ⟨-, rfl⟩ := Prod.mk.inj hb
      refine ⟨(hnew.exchange hsplit id hlater _).insertBefore (by simpa using hfirst) hinsert, ?_⟩
      obtain ⟨-, -, -, -, -, -, rfl⟩ := insertBefore_eq_ok hinsert
      rfl
  · obtain ⟨-, rfl⟩ := Prod.mk.inj hb
    exact ⟨hnew, rfl⟩

/-- Wrapping calls one after the other keeps the body reloadable. -/
theorem wrapCalls_reloadable {helper : MethodRef} (hhelper : helper.WellFormed)
    {targets : List (StmtId × Ty)} (htargets : ∀ target ∈ targets, target.2.WellFormed)
    (h : b.Reloadable) {u : Unit} (hb : wrapCalls helper targets b = (.ok u, b')) :
    b'.Reloadable ∧ b'.method = b.method := by
  induction targets generalizing b with
  | nil =>
    obtain ⟨-, rfl⟩ := Prod.mk.inj hb
    exact ⟨h, rfl⟩
  | cons target targets ih =>
    obtain ⟨id, ty⟩ := target
    rw [List.forall_mem_cons] at htargets
    rw [wrapCalls] at hb
    split at hb
    · cases hb
    next u' b₁ hcall =>
      obtain ⟨h₁, hmethod⟩ := wrapCall_reloadable h hhelper id htargets.1 hcall
      obtain ⟨h', hmethod'⟩ := ih htargets.2 h₁ hb
      exact ⟨h', hmethod'.trans hmethod⟩

/-- **A wrapping** keeps a body reloadable. -/
theorem wrapFirstArgument_reloadable (h : b.Reloadable) {helper : MethodRef}
    (hhelper : helper.WellFormed) {selects : Ty → Bool} {n : Nat}
    (hb : b.wrapFirstArgument helper selects = (.ok n, b')) :
    b'.Reloadable ∧ b'.method = b.method := by
  rw [wrapFirstArgument, Prod.mk.injEq] at hb
  obtain ⟨houtcome, hb⟩ := hb
  cases hcalls : wrapCalls helper (b.wrapTargets selects) b with
  | mk outcome b₁ =>
    rw [hcalls] at houtcome hb
    cases outcome with
    | error fault => cases houtcome
    | ok u =>
      obtain rfl : b₁ = b' := hb
      exact wrapCalls_reloadable hhelper (h.wrapTargets selects) h hcalls

end Body

/-! ### Substitution -/

namespace Body

variable {b b' : Body}

/-- **A local with a new name and type.** -/
theorem retypeLocal_reloadable (h : b.Reloadable) {name : Text} (hname : IsPlainName name) {ty : Ty}
    (hty : ty.WellFormed) {l : Local}
    (hb : b.retypeLocal name (Substitution.replacedName name) ty = .ok (l, b')) :
    b'.Reloadable ∧ b'.method = b.method := by
  have hdistinct := nodup_names_retypeLocal hb h.distinct
  obtain ⟨-, hdeclared, rfl, rfl⟩ := retypeLocal_eq_ok hb
  obtain ⟨before, old, after, hlocals, -, -, hreplace⟩ :=
    exists_split_replaceLocal hdeclared ⟨Substitution.replacedName name, ty⟩
  have hnew := isLocal_replacedName hname.form
  have hall := h.locals
  have husable := h.usable
  rw [hlocals, List.forall_mem_append, List.forall_mem_cons] at hall husable
  refine ⟨⟨⟨?_, hdistinct, ?_, ?_⟩, ?_⟩, rfl⟩
  · rw [hreplace, List.forall_mem_append, List.forall_mem_cons]
    exact ⟨hall.1, ⟨hnew.form, hty⟩, hall.2.2⟩
  · intro s hs
    simp only [statements, List.map_map, List.mem_map, Function.comp_apply] at hs
    obtain ⟨e, he, rfl⟩ := hs
    exact (h.stmts e.2 (List.mem_map_of_mem he)).rename hname
  · intro code hcode
    simp only [statements, List.map_map, List.head?_map, Option.map_eq_some_iff,
      Function.comp_apply] at hcode
    obtain ⟨⟨id, s⟩, hs, hcode⟩ := hcode
    have hhead : b.statements.head? = some s := by rw [statements, List.head?_map, hs]; rfl
    cases s with
    | verbatim old =>
      obtain rfl := Stmt.verbatim.inj hcode
      have hmarked := Marked.renameWord (isWord_of_isLocalName hname.form).1 old
      exact hmarked.readDeclaration?_verbatimLine
        hname.toIsLocal (h.stmts (.verbatim old) (List.mem_of_head? hhead)) (h.first old hhead)
    | _ => cases hcode
  · rw [hreplace, List.forall_mem_append, List.forall_mem_cons]
    exact ⟨husable.1, hnew, husable.2.2⟩

/-- Retyping locals one after the other keeps the body reloadable. -/
theorem retypeAll_reloadable (h : b.Reloadable) {new : Text} (hnew : ClassName.WellFormed ⟨new⟩)
    {names : List Text} (hnames : ∀ name ∈ names, IsPlainName name) {renamed : List (Text × Text)}
    (hb : Substitution.retypeAll new names b = (.ok renamed, b')) :
    b'.Reloadable ∧ b'.method = b.method := by
  induction names generalizing b renamed with
  | nil =>
    obtain ⟨-, rfl⟩ := Prod.mk.inj hb
    exact ⟨h, rfl⟩
  | cons name names ih =>
    rw [List.forall_mem_cons] at hnames
    rw [Substitution.retypeAll] at hb
    split at hb
    · cases hb
    next l b₁ hretype =>
      have hty : Ty.WellFormed (.class_ new) := hnew
      obtain ⟨h₁, hmethod⟩ := retypeLocal_reloadable h hnames.1 hty hretype
      cases hrest : Substitution.retypeAll new names b₁ with
      | mk outcome b₂ =>
        rw [hrest, Prod.mk.injEq] at hb
        obtain ⟨houtcome, rfl⟩ := hb
        cases outcome with
        | error fault => cases houtcome
        | ok renamed' =>
          obtain ⟨h₂, hmethod'⟩ := ih h₁ hnames.2 hrest
          exact ⟨h₂, hmethod'.trans hmethod⟩

/-- **Replacements** by built statements. -/
theorem commit_replacements_reloadable (h : b.Reloadable) {reps : List (StmtId × Stmt)}
    (hreps : ∀ r ∈ reps, r.2.IsBuilt) {n : Nat}
    (hb : EditLog.commit (EditLog.replacements reps) b = (.ok n, b')) :
    b'.Reloadable ∧ b'.method = b.method := by
  induction reps generalizing b n with
  | nil =>
    obtain ⟨-, rfl⟩ := Prod.mk.inj hb
    exact ⟨h, rfl⟩
  | cons r reps ih =>
    obtain ⟨id, new⟩ := r
    rw [List.forall_mem_cons] at hreps
    have hform : EditLog.replacements ((id, new) :: reps) =
        EditLog.replacement id new ++ EditLog.replacements reps := rfl
    rw [hform] at hb
    cases hposition : b.position? id with
    | none =>
      have hfail : (Edit.insertAfter id [new]).apply b = .error (.unknownStmt id) := by
        rw [Edit.apply, insertAfter, hposition]
        rfl
      rw [EditLog.replacement, List.cons_append, EditLog.commit, hfail] at hb
      cases hb
    | some i =>
      obtain ⟨pre, s, post, hsplit, hpre, -⟩ := exists_split_of_position? hposition
      rw [EditLog.commit_replacement hsplit hpre new _ rfl, Prod.mk.injEq] at hb
      obtain ⟨houtcome, rfl⟩ := hb
      have h₁ := h.exchange hsplit ⟨b.nextId⟩ hreps.1 (b.nextId + 1)
      cases hrest : (EditLog.commit (EditLog.replacements reps)
          { b with stmts := pre ++ (⟨b.nextId⟩, new) :: post, nextId := b.nextId + 1 }).1 with
      | error fault =>
        rw [hrest] at houtcome
        cases houtcome
      | ok n' =>
        obtain ⟨h', hmethod⟩ := ih h₁ hreps.2 (Prod.ext hrest rfl)
        exact ⟨h', hmethod⟩

end Body

namespace Substitution

variable {scene : Scene} {old new : Text} {retyped : List Text}

/-- What is found by looking ahead takes the place of a statement of the chain. -/
theorem exists_replacement?_of_mem_lookAhead {stmts : List (StmtId × Stmt)} {r : StmtId × Stmt}
    (h : r ∈ lookAhead scene old new retyped stmts) :
    ∃ e ∈ stmts, ∃ rest, replacement? scene old new retyped e.2 rest = some r.2 := by
  induction stmts with
  | nil => cases h
  | cons e stmts ih =>
    rw [lookAhead, List.mem_append, Option.mem_toList, Option.map_eq_some_iff] at h
    obtain ⟨t, ht, rfl⟩ | h := h
    · exact ⟨e, List.mem_cons_self, _, ht⟩
    · obtain ⟨e', he', hrest⟩ := ih h
      exact ⟨e', List.mem_cons_of_mem _ he', hrest⟩

/-- **What takes the place of a statement** is built from operands. -/
theorem isBuilt_of_replacement? (hscene : scene.Reloadable) (hnew : ClassName.WellFormed ⟨new⟩)
    {s t : Stmt} (hs : s.WellFormed) {rest : List Stmt}
    (h : replacement? scene old new retyped s rest = some t) : t.IsBuilt := by
  unfold replacement? at h
  split at h
  next e he =>
    obtain ⟨target, ⟨-, -, hdeclared⟩, rfl⟩ := redirection?_eq_some_iff.1 h
    obtain ⟨rfl, -, -⟩ := Stmt.eq_of_special? he
    obtain ⟨method, hmethod⟩ := Option.isSome_iff_exists.1 hdeclared
    have htarget : target.WellFormed := by
      obtain ⟨c, hc, hmethod⟩ := Option.bind_eq_some_iff.1 hmethod
      have hform := hscene c (List.mem_of_find?_eq_some hc)
      have hcls : c.name = target.cls := Scene.name_of_class? hc
      have hsig : method.sig = target.sig := by simpa using List.find?_some hmethod
      have hmethod := hform.methods method (List.mem_of_find?_eq_some hmethod)
      exact ⟨hcls ▸ hform.name, hsig ▸ hmethod.sig⟩
    have hcall : Call.WellFormed e := hs
    exact ⟨⟨hcall.static, hcall.base, htarget, hcall.args⟩, fun _ => Stmt.noConfusion⟩
  · obtain ⟨x, hx, h⟩ := Option.bind_eq_some_iff.1 h
    split at h
    · obtain rfl := Option.some.inj h
      rw [Stmt.eq_of_allocated? hx] at hs
      have halloc : Value.IsOperand (.alloc ⟨new⟩) := hnew
      exact CallSite.isBuilt_assignVar hs.1 (.inl halloc)
    · cases h

end Substitution

/-- **A substitution** keeps a body reloadable, if no local of the replaced class is called by a
word for a type. -/
theorem Body.replaceType_reloadable {b b' : Body} (h : b.Reloadable) {scene : Scene}
    (hscene : scene.Reloadable) {old new : Text} (hnew : ClassName.WellFormed ⟨new⟩)
    (htypes : ∀ l ∈ b.locals, l.ty.isClass old = true → ∀ t ∈ Ty.named, t.text ≠ l.name)
    {report : SubstitutionReport} (hb : b.replaceType scene old new = (.ok report, b')) :
    b'.Reloadable ∧ b'.method = b.method := by
  have hnames : ∀ name ∈ (b.locals.filter fun l => l.ty.isClass old).map Local.name,
      IsPlainName name := by
    rw [List.forall_mem_map]
    intro l hl
    obtain ⟨hmem, hty⟩ := List.mem_filter.1 hl
    exact ⟨h.usable l hmem, htypes l hmem hty⟩
  unfold replaceType at hb
  dsimp only at hb
  split at hb
  · cases hb
  next renamed b₁ hretype =>
    obtain ⟨h₁, hmethod⟩ := retypeAll_reloadable h hnew hnames hretype
    have hempty : Substitution.Scan.Holds (renamed.map Prod.snd) .empty [] :=
      ⟨List.nodup_nil, by simp [Substitution.Scan.empty], rfl⟩
    obtain ⟨reps, hlog, hperm⟩ := Substitution.scan_perm scene old new hempty b₁.stmts
    have hperm : reps.Perm
        (Substitution.lookAhead scene old new (renamed.map Prod.snd) b₁.stmts) := hperm
    -- Every replacement is put together from the statement that it replaces.
    have hreps : ∀ r ∈ reps, r.2.IsBuilt := by
      intro r hr
      obtain ⟨e, he, rest, hreplace⟩ :=
        Substitution.exists_replacement?_of_mem_lookAhead (hperm.subset hr)
      exact Substitution.isBuilt_of_replacement? hscene hnew
        (h₁.stmts e.2 (List.mem_map_of_mem he)) hreplace
    rw [Substitution.scan, hlog, Prod.mk.injEq] at hb
    obtain ⟨houtcome, rfl⟩ := hb
    cases hcommit : EditLog.commit (EditLog.replacements reps) b₁ with
    | mk outcome b₂ =>
      rw [hcommit] at houtcome
      cases outcome with
      | error fault => cases houtcome
      | ok n =>
        obtain ⟨h₂, hmethod'⟩ := commit_replacements_reloadable h₁ hreps hcommit
        exact ⟨h₂, hmethod'.trans hmethod⟩

end Weaver
