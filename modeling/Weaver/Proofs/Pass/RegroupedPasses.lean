import Weaver.Proofs.Pass.InjectedCode
import Weaver.Proofs.Pass.RegroupedSubstitution
import Weaver.Proofs.Pass.Reloading
import Weaver.Proofs.Pass.WrappedCalls

/-!
# Instrumentation of Regrouped Bodies

Reading a class back from its text regroups the locals of its methods. Whether that happens before
a body is instrumented makes no difference: the same local is taken for the context, the same names
are generated, and the printed class is the same.

Two runs are compared here step by step. While an injection builds its calls, the two bodies get
the same new locals, so that the one relation `Block.Parallel` holds all the way; what is asked of
the scene is asked of its classes and never of their bodies.

## Main definitions

* `Block.Parallel`: the blocks of two injections on the way.
* `Scene.EndAlike`, `Scene.InstrumentedAlike`: **what does not depend on the grouping**.

## Main results

* `CallSite.placeholder_parallel`, `CallSite.call_parallel`, `CallSite.callListener_parallel`: one
  step for each function of the builder.
* `Body.Regrouped.terminalReturn?_cases`: the place of the new code.
* `Body.Regrouped.injectCalls`, `Body.Regrouped.wrapFirstArgument`: the passes over bodies.
* `Scene.Regrouped.instrumentedAlike`, `Scene.instrumentation_regrouped`: the passes over scenes.
-/

namespace Weaver

/-! ### Wrapped calls -/

namespace Body

variable {b b' : Body}

/-- Which calls are selected depends on the types of values only. -/
theorem isWrapTarget_congr (htypes : ∀ v : Value, v.ty? b' = v.ty? b) (selects : Ty → Bool)
    (s : Stmt) : b'.isWrapTarget selects s = b.isWrapTarget selects s := by
  have hfirst : b'.firstArgumentType? s = b.firstArgumentType? s := by
    cases s with
    | invoke e => exact congrArg (Option.bind _) (funext htypes)
    | _ => rfl
  rw [isWrapTarget, isWrapTarget, hfirst]

/-- **Two chains are wrapped alike** if they have the same statements: by locals of the same types
and, if these have the same names, with the same result. -/
theorem Wraps.parallel {helper : MethodRef} {selects : Ty → Bool} {next next' : Nat}
    {chain chain' after after' : List (StmtId × Stmt)} {ls ls' : List Local}
    (htypes : ∀ v : Value, v.ty? b' = v.ty? b)
    (h : b.Wraps helper selects next chain ls after)
    (h' : b'.Wraps helper selects next' chain' ls' after')
    (hstmts : chain'.map Prod.snd = chain.map Prod.snd) :
    ls'.map Local.ty = ls.map Local.ty ∧
      (ls' = ls → after'.map Prod.snd = after.map Prod.snd) := by
  induction h generalizing next' chain' ls' after' with
  | nil =>
    cases h' with
    | nil => exact ⟨rfl, fun _ => rfl⟩
    | keep => cases hstmts
    | wrap => cases hstmts
  | @keep next e chain after ls hkeep _ ih =>
    cases h' with
    | nil => cases hstmts
    | @keep _ e' _ _ _ hkeep' hrest =>
      obtain ⟨he, hstmts⟩ := List.cons.inj hstmts
      obtain ⟨htys, hafter⟩ := ih hrest hstmts
      refine ⟨htys, fun hls => ?_⟩
      rw [List.map_cons, List.map_cons, hafter hls]
      exact congrArg (· :: _) he
    | @wrap _ id kind base method first others l _ _ _ hty hsel hrest =>
      obtain ⟨he, -⟩ := List.cons.inj hstmts
      -- The same statement cannot be kept in one chain and selected in the other.
      have htarget : b'.isWrapTarget selects e.2 = true := by
        rw [← he, isWrapTarget, firstArgumentType?_eq_some_iff.2 ⟨_, _, _, _, _, rfl, hty⟩]
        exact hsel
      rw [isWrapTarget_congr htypes, hkeep] at htarget
      cases htarget
  | @wrap next id kind base method first others l chain after ls hty hsel _ ih =>
    cases h' with
    | nil => cases hstmts
    | @keep _ e' _ _ _ hkeep' hrest =>
      obtain ⟨he, -⟩ := List.cons.inj hstmts
      have htarget : b.isWrapTarget selects e'.2 = true := by
        rw [he, isWrapTarget, firstArgumentType?_eq_some_iff.2 ⟨_, _, _, _, _, rfl, hty⟩]
        exact hsel
      rw [← isWrapTarget_congr htypes, hkeep'] at htarget
      cases htarget
    | @wrap _ id' kind' base' method' first' others' l' _ _ _ hty' hsel' hrest =>
      obtain ⟨he, hstmts⟩ := List.cons.inj hstmts
      obtain ⟨htys, hafter⟩ := ih hrest hstmts
      injection he with he
      injection he with hkind hbase hmethod hargs
      obtain ⟨hfirst, hothers⟩ := List.cons.inj hargs
      rw [htypes, hfirst, hty] at hty'
      refine ⟨?_, fun hls => ?_⟩
      · rw [List.map_cons, List.map_cons, htys, Option.some.inj hty']
      · obtain ⟨hl, htail⟩ := List.cons.inj hls
        rw [List.map_cons, List.map_cons, List.map_cons, List.map_cons, hafter htail]
        simp only [hkind, hbase, hmethod, hfirst, hothers, hl]

/-- What the pass makes of a sound body. -/
theorem wrapFirstArgument_wraps (hb : b.Sound) (helper : MethodRef) (selects : Ty → Bool) :
    ∃ ls chain, b.Wraps helper selects b.nextId b.stmts ls chain ∧ b.FreshInTurn ls ∧
      b.wrapFirstArgument helper selects = (.ok ls.length,
        { b.withLocals ls with stmts := chain, nextId := b.nextId + ls.length }) := by
  obtain ⟨ls, chain, hwraps, hfresh, hrun⟩ :=
    wrapCalls_wraps b helper selects (Halfway.start hb.nodup_ids hb.ids_lt)
  refine ⟨ls, chain, hwraps, hfresh, ?_⟩
  rw [← wrapTargets_eq] at hrun
  rw [wrapFirstArgument, hrun, length_wrapTargets, hwraps.length_eq]
  rfl

/-- **Wrapping ends alike** on regrouped bodies, and leaves regrouped bodies. -/
theorem Regrouped.wrapFirstArgument (h : b.Regrouped b') (hb : b.Sound) (hb' : b'.Sound)
    (helper : MethodRef) (selects : Ty → Bool) :
    (b'.wrapFirstArgument helper selects).1 = (b.wrapFirstArgument helper selects).1 ∧
      (b.wrapFirstArgument helper selects).2.Regrouped (b'.wrapFirstArgument helper selects).2 := by
  obtain ⟨ls, chain, hwraps, hfresh, hrun⟩ := wrapFirstArgument_wraps hb helper selects
  obtain ⟨ls', chain', hwraps', hfresh', hrun'⟩ := wrapFirstArgument_wraps hb' helper selects
  obtain ⟨htypes, hafter⟩ :=
    hwraps.parallel (h.ty?_eq hb.nodup_names) hwraps' h.statements_eq
  obtain rfl : ls' = ls := hfresh.unique (fun _ => h.mem_names_iff) hfresh' htypes
  rw [hrun, hrun']
  exact ⟨rfl, h.method_eq, hafter rfl, groups_append_congr h.groups_eq ls'⟩

end Body

/-! ### Building calls -/

/-- The blocks of two injections on the way, into bodies `b` and `b'`: they have **the same
statements**, and their bodies have got the same new locals. -/
structure Block.Parallel (b b' : Body) (k k' : Block) : Prop where
  body : ∃ ls, k.body = b.withLocals ls ∧ k'.body = b'.withLocals ls
  stmts_eq : k'.stmts = k.stmts

namespace Block.Parallel

variable {b b' : Body} {k k' : Block}

/-- The same statement can be added to both blocks. -/
theorem push (h : Parallel b b' k k') (s : Stmt) : Parallel b b' (k.push s) (k'.push s) :=
  ⟨h.body, congrArg (· ++ [s]) h.stmts_eq⟩

/-- A generated local has the same name in both. -/
theorem generateLocal (hb : b.Regrouped b') (h : Parallel b b' k k') (ty : Ty) :
    (k'.generateLocal ty).1 = (k.generateLocal ty).1 ∧
      Parallel b b' (k.generateLocal ty).2 (k'.generateLocal ty).2 := by
  obtain ⟨ls, hbody, hbody'⟩ := h.body
  have hlocal := ((hb.withLocals ls).generateLocal ty).1
  rw [← hbody, ← hbody'] at hlocal
  refine ⟨congrArg Local.name hlocal, ⟨ls ++ [(k.body.generateLocal ty).1], ?_, ?_⟩, h.stmts_eq⟩
  · rw [Body.withLocals_append, ← hbody]
    rfl
  · rw [Body.withLocals_append, ← hbody', ← hlocal]
    rfl

/-- What holds on the way is kept by a loop. -/
theorem foldl {α : Type} {step step' : Block → α → Block}
    (hstep : ∀ k k' x, Parallel b b' k k' → Parallel b b' (step k x) (step' k' x))
    (h : Parallel b b' k k') (xs : List α) :
    Parallel b b' (xs.foldl step k) (xs.foldl step' k') := by
  induction xs generalizing k k' with
  | nil => exact h
  | cons x xs ih => exact ih (hstep k k' x h)

end Block.Parallel

namespace CallSite

section

variable {s s' : Scene} (hs : s.Regrouped s') (this context : Text)
include hs

/-- The scene is asked for classes, and not for their bodies: **the same objects are built** in
regrouped scenes. -/
theorem construct_regrouped : construct ⟨s', this, context⟩ = construct ⟨s, this, context⟩ := by
  funext cls k
  have hfound : Option.Rel (fun x x' => x'.1.name = x.1.name ∧ x'.2 = x.2)
      (constructor? ⟨s, this, context⟩ cls) (constructor? ⟨s', this, context⟩ cls) := by
    rw [constructor?, constructor?]
    have hclass := hs.class? cls
    dsimp only
    generalize s.class? cls = c at hclass
    generalize s'.class? cls = c' at hclass
    cases hclass with
    | none => exact .none
    | some hc =>
      simp only [hc.isAbstract_eq, hc.declares_eq]
      split
      · exact .none
      · split
        · exact .some ⟨hc.name_eq, rfl⟩
        · split
          · exact .some ⟨hc.name_eq, rfl⟩
          · exact .none
  rw [construct, construct]
  generalize constructor? ⟨s, this, context⟩ cls = x at hfound
  generalize constructor? ⟨s', this, context⟩ cls = x' at hfound
  cases hfound with
  | none => rfl
  | @some x x' hx =>
    obtain ⟨c, sig, args⟩ := x
    obtain ⟨c', sig', args'⟩ := x'
    obtain ⟨hname, hrest⟩ := hx
    obtain ⟨rfl, rfl⟩ := Prod.mk.inj hrest
    simp only [Class.refTo, show c'.name = c.name from hname]

/-- The placeholders for parameters are the same in both scenes. -/
theorem placeholders_regrouped :
    placeholders ⟨s', this, context⟩ = placeholders ⟨s, this, context⟩ := by
  have hplaceholder : placeholder ⟨s', this, context⟩ = placeholder ⟨s, this, context⟩ := by
    funext ty k
    rw [placeholder, placeholder, construct_regrouped hs]
  funext tys
  induction tys with
  | nil => rfl
  | cons ty tys ih =>
    funext k
    rw [placeholders, placeholders, hplaceholder, ih]

/-- The calls of a listener are the same in both scenes. -/
theorem callListener_regrouped :
    callListener ⟨s', this, context⟩ = callListener ⟨s, this, context⟩ := by
  have hcallback : callback ⟨s', this, context⟩ = callback ⟨s, this, context⟩ := by
    funext interface name k sig
    rw [callback, callback, placeholders_regrouped hs]
  funext cls registry k f
  rw [callListener, callListener, hcallback]
  rfl

/-- The calls of a handler are the same in both scenes. -/
theorem callHandler_regrouped :
    callHandler ⟨s', this, context⟩ = callHandler ⟨s, this, context⟩ := by
  funext cls k sig
  rw [callHandler, callHandler, placeholders_regrouped hs]

end

variable (site : CallSite) {b b' : Body} (hb : b.Regrouped b') {k k' : Block}
include hb

/-- Objects are built alike over both bodies. -/
theorem construct_parallel (cls : ClassName) (h : k.Parallel b b' k') :
    (site.construct cls k').1 = (site.construct cls k).1 ∧
      (site.construct cls k).2.Parallel b b' (site.construct cls k').2 := by
  rw [construct, construct]
  cases site.constructor? cls with
  | none => exact ⟨rfl, h⟩
  | some found =>
    obtain ⟨c, sig, args⟩ := found
    obtain ⟨hname, hnew⟩ := h.generateLocal hb (.ref c.name)
    simp only [hname]
    exact ⟨trivial, (hnew.push _).push _⟩

/-- **An argument**: the same value, and the same code. -/
theorem placeholder_parallel (ty : Ty) (h : k.Parallel b b' k') :
    (site.placeholder ty k').1 = (site.placeholder ty k).1 ∧
      (site.placeholder ty k).2.Parallel b b' (site.placeholder ty k').2 := by
  rw [placeholder, placeholder]
  split
  · exact ⟨rfl, h⟩
  · split
    · exact ⟨rfl, h⟩
    · split
      · exact ⟨rfl, h⟩
      · cases ty.className? with
        | none => exact ⟨rfl, h⟩
        | some cls => exact site.construct_parallel hb cls h

/-- **Arguments**, one after the other. -/
theorem placeholders_parallel (tys : List Ty) (h : k.Parallel b b' k') :
    (site.placeholders tys k').1 = (site.placeholders tys k).1 ∧
      (site.placeholders tys k).2.Parallel b b' (site.placeholders tys k').2 := by
  induction tys generalizing k k' with
  | nil => exact ⟨rfl, h⟩
  | cons ty tys ih =>
    obtain ⟨hv, hfirst⟩ := site.placeholder_parallel hb ty h
    obtain ⟨hvs, hrest⟩ := ih hfirst
    exact ⟨congrArg₂ List.cons hv hvs, hrest⟩

/-- **A call** of any kind, with its arguments. -/
theorem call_parallel (kind : CallKind) (base : Text) (m : MethodRef) (h : k.Parallel b b' k') :
    Block.Parallel b b'
      ((site.placeholders m.sig.params k).2.push
        (.invoke ⟨kind, some base, m, (site.placeholders m.sig.params k).1⟩))
      ((site.placeholders m.sig.params k').2.push
        (.invoke ⟨kind, some base, m, (site.placeholders m.sig.params k').1⟩)) := by
  obtain ⟨hargs, hcode⟩ := site.placeholders_parallel hb m.sig.params h
  rw [hargs]
  exact hcode.push _

/-- **A listener** with its callbacks. -/
theorem callListener_parallel (cls : ClassName) (registry : ListenerRegistry) (f : Field)
    (h : k.Parallel b b' k') :
    (site.callListener cls registry k f).Parallel b b' (site.callListener cls registry k' f) := by
  rw [callListener, callListener]
  cases f.ty.className? with
  | none => exact h
  | some interface =>
    obtain ⟨hname, hnew⟩ := h.generateLocal hb f.ty
    simp only [hname]
    exact (hnew.push _).foldl
      (fun _ _ sig hk => site.call_parallel hb .interface _ ⟨interface, sig⟩ hk) _

end CallSite

namespace Body

variable {b b' : Body}

/-- **The context** is taken from the same local, or asked for in the same way. -/
theorem provideContext_parallel (h : b.Regrouped b') (this : Text) :
    (b'.provideContext this).1 = (b.provideContext this).1 ∧
      (b.provideContext this).2.Parallel b b' (b'.provideContext this).2 := by
  have hcontext : b'.contextLocal? = b.contextLocal? := h.last_eq contextClass
  have hstart : Block.Parallel b b' ⟨b, []⟩ ⟨b', []⟩ :=
    ⟨⟨[], b.withLocals_nil.symm, b'.withLocals_nil.symm⟩, rfl⟩
  rw [provideContext, provideContext, hcontext]
  cases b.contextLocal? with
  | some name => exact ⟨rfl, hstart⟩
  | none =>
    obtain ⟨hname, hnew⟩ := hstart.generateLocal h (.class_ contextClass)
    have hcall := hnew.push (.assignVar (Block.generateLocal ⟨b, []⟩ (.class_ contextClass)).1
      (contextCall this))
    refine ⟨hname, hcall.body, ?_⟩
    exact congrArg (fun name => [Stmt.assignVar name (contextCall this)]) hname

/-- **The whole block** is the same, under the same local for the context. -/
theorem buildCalls_parallel (h : b.Regrouped b') {s s' : Scene} (hs : s.Regrouped s')
    (lifecycle : Lifecycle) (registry : ListenerRegistry) (this : Text) :
    (b'.buildCalls s' lifecycle registry this).1 = (b.buildCalls s lifecycle registry this).1 ∧
      (b.buildCalls s lifecycle registry this).2.Parallel b b'
        (b'.buildCalls s' lifecycle registry this).2 := by
  obtain ⟨hcontext, hstart⟩ := provideContext_parallel h this
  let site : CallSite := ⟨s, this, (b.provideContext this).1⟩
  have hlisteners := hstart.foldl
    (fun _ _ f hk => site.callListener_parallel h lifecycle.cls registry f hk)
    lifecycle.listenerFields
  have hhandlers := hlisteners.foldl
    (fun _ _ sig hk => site.call_parallel h .virtual this ⟨lifecycle.cls, sig⟩ hk)
    lifecycle.handlers
  simp only [buildCalls, hcontext, CallSite.callListener_regrouped hs,
    CallSite.callHandler_regrouped hs]
  exact ⟨trivial, hhandlers⟩

/-- A list is cut at the last occurrence of an element in one way. -/
theorem eq_of_append_cons_eq {α : Type} {x : α} {pre pre' post post' : List α}
    (h : pre' ++ x :: post' = pre ++ x :: post) (hpost' : x ∉ post') (hpost : x ∉ post) :
    pre' = pre ∧ post' = post := by
  obtain ⟨c, hpre, hcut⟩ | ⟨c, hpre, hcut⟩ := List.append_eq_append_iff.1 h
  · cases c with
    | nil => exact ⟨(hpre.trans (List.append_nil _)).symm, (List.cons.inj hcut).2⟩
    | cons y c => exact absurd ((List.cons.inj hcut).2 ▸ by simp) hpost'
  · cases c with
    | nil => exact ⟨hpre.trans (List.append_nil _), (List.cons.inj hcut).2.symm⟩
    | cons y c => exact absurd ((List.cons.inj hcut).2 ▸ by simp) hpost

/-- Without void returns there is no return without a value. -/
theorem ret_none_not_mem {chain : List (StmtId × Stmt)}
    (h : ∀ e ∈ chain, e.2.isVoidReturn = false) : Stmt.ret none ∉ chain.map Prod.snd := by
  intro hmem
  obtain ⟨e, he, hstmt⟩ := List.mem_map.1 hmem
  have hvoid := h e he
  rw [hstmt] at hvoid
  cases hvoid

/-- **The last return without a value** stands at the same place in both chains, or in none. -/
theorem Regrouped.terminalReturn?_cases (h : b.Regrouped b') (hnd : b.ids.Nodup)
    (hnd' : b'.ids.Nodup) :
    (b.terminalReturn? = none ∧ b'.terminalReturn? = none) ∨
      ∃ anchor anchor' pre pre' post post',
        b.terminalReturn? = some anchor ∧ b'.terminalReturn? = some anchor' ∧
        b.stmts = pre ++ (anchor, .ret none) :: post ∧ anchor ∉ pre.map Prod.fst ∧
        b'.stmts = pre' ++ (anchor', .ret none) :: post' ∧ anchor' ∉ pre'.map Prod.fst ∧
        pre'.map Prod.snd = pre.map Prod.snd ∧ post'.map Prod.snd = post.map Prod.snd := by
  have hnone : ∀ c : Body,
      c.terminalReturn? = none ↔ ∀ s ∈ c.statements, s.isVoidReturn = false := by
    intro c
    rw [terminalReturn?, List.getLast?_eq_none_iff, voidReturns, List.map_eq_nil_iff,
      List.filter_eq_nil_iff, statements, List.forall_mem_map]
    simp only [Bool.not_eq_true]
  cases hret : b.terminalReturn? with
  | none =>
    refine .inl ⟨rfl, (hnone b').2 ?_⟩
    rw [h.statements_eq]
    exact (hnone b).1 hret
  | some anchor =>
    cases hret' : b'.terminalReturn? with
    | none =>
      have hall := (hnone b').1 hret'
      rw [h.statements_eq, ← hnone b, hret] at hall
      cases hall
    | some anchor' =>
      obtain ⟨pre, post, hb, hpost⟩ := exists_split_of_terminalReturn? hret
      obtain ⟨pre', post', hb', hpost'⟩ := exists_split_of_terminalReturn? hret'
      have hstmts : pre'.map Prod.snd ++ .ret none :: post'.map Prod.snd =
          pre.map Prod.snd ++ .ret none :: post.map Prod.snd := by
        have hchain := h.statements_eq
        rwa [statements, statements, hb, hb', List.map_append, List.map_append] at hchain
      -- Behind the last return there is none, so that the chains are split alike.
      obtain ⟨hpre, hpost⟩ := eq_of_append_cons_eq hstmts (ret_none_not_mem hpost')
        (ret_none_not_mem hpost)
      exact .inr ⟨anchor, anchor', pre, pre', post, post', rfl, rfl, hb,
        not_mem_of_nodup_split hnd hb, hb', not_mem_of_nodup_split hnd' hb', hpre, hpost⟩

/-- **Injecting ends alike** on regrouped bodies: with the same fault or the same report, and it
leaves regrouped bodies. -/
theorem Regrouped.injectCalls (h : b.Regrouped b') (hb : b.Sound) (hb' : b'.Sound) {s s' : Scene}
    (hs : s.Regrouped s') (lifecycle : Lifecycle) (registry : ListenerRegistry) :
    (b'.injectCalls s' lifecycle registry).1 = (b.injectCalls s lifecycle registry).1 ∧
      (b.injectCalls s lifecycle registry).2.Regrouped
        (b'.injectCalls s' lifecycle registry).2 := by
  rw [Body.injectCalls, Body.injectCalls, h.thisLocal?_eq hb.nodup_names, h.method_eq]
  obtain ⟨hret, hret'⟩ | ⟨anchor, anchor', pre, pre', post, post', hret, hret', hsplit, hpre,
    hsplit', hpre', hfront, hback⟩ := h.terminalReturn?_cases hb.nodup_ids hb'.nodup_ids
  · rw [hret, hret']
    exact ⟨rfl, h⟩
  · rw [hret, hret']
    cases b.thisLocal? with
    | none => exact ⟨rfl, h⟩
    | some this =>
      obtain ⟨hcontext, ⟨ls, hbody, hbody'⟩, hcode⟩ :=
        buildCalls_parallel h hs lifecycle registry this.name
      have hlast : b'.contextLocal? = b.contextLocal? := h.last_eq contextClass
      dsimp only
      generalize b.buildCalls s lifecycle registry this.name = built at *
      generalize b'.buildCalls s' lifecycle registry this.name = built' at *
      obtain ⟨context, body, code⟩ := built
      obtain ⟨context', body', code'⟩ := built'
      dsimp only at hcontext hbody hbody' hcode ⊢
      subst hcontext hbody hbody' hcode
      rw [insertBefore_of_split (b := b.withLocals ls) hsplit hpre,
        insertBefore_of_split (b := b'.withLocals ls) hsplit' hpre']
      simp only [List.length_map, length_numbered, hlast]
      refine ⟨trivial, h.method_eq, ?_, groups_append_congr h.groups_eq ls⟩
      simp only [statements, List.map_append, List.map_cons, map_snd_numbered, hfront, hback]

end Body

/-! ### Scenes -/

namespace Scene

/-- Two runs **end alike**: with the same outcome, in regrouped scenes, and thus with the same
printed classes. -/
structure EndAlike {α : Type} (r r' : α × Scene) : Prop where
  outcome : r'.1 = r.1
  regrouped : r.2.Regrouped r'.2
  texts : r'.2.classes.map Class.text = r.2.classes.map Class.text

variable {s s' : Scene}

/-- Regrouped scenes are **printed alike**. -/
theorem Regrouped.texts_eq (h : s.Regrouped s') :
    s'.classes.map Class.text = s.classes.map Class.text := by
  have hclasses := h.classes
  generalize s.classes = cs at hclasses
  generalize s'.classes = cs' at hclasses
  induction hclasses with
  | nil => rfl
  | cons hc _ ih => rw [List.map_cons, List.map_cons, hc.text_eq, ih]

/-- A change of one body ends alike, if it does so on the body and its counterpart. -/
theorem Regrouped.rewriteBody {α ε : Type} (h : s.Regrouped s') (m : MethodRef)
    (liftFault : Fault → ε) (change : Body → Scene → Except ε α × Body)
    (hchange : ∀ b b', s.body m = .ok b → s'.body m = .ok b' → b.Regrouped b' →
      (change b' s').1 = (change b s).1 ∧ (change b s).2.Regrouped (change b' s').2) :
    EndAlike (s.rewriteBody m liftFault change) (s'.rewriteBody m liftFault change) := by
  rw [Scene.rewriteBody, Scene.rewriteBody]
  obtain ⟨fault, hfault, hfault'⟩ | ⟨b, b', hb, hb', hregrouped⟩ := h.body_cases m
  · rw [hfault, hfault']
    exact ⟨rfl, h, h.texts_eq⟩
  · obtain ⟨houtcome, hbodies⟩ := hchange b b' hb hb' hregrouped
    rw [hb, hb']
    dsimp only
    generalize change b s = r at houtcome hbodies
    generalize change b' s' = r' at houtcome hbodies
    obtain ⟨outcome, b₁⟩ := r
    obtain ⟨outcome', b₁'⟩ := r'
    obtain rfl : outcome' = outcome := houtcome
    cases outcome' with
    | error fault => exact ⟨rfl, h, h.texts_eq⟩
    | ok result =>
      have hscenes := h.setBody m hbodies
      exact ⟨rfl, hscenes, hscenes.texts_eq⟩

/-- **Two scenes are instrumented alike** by each of the passes. -/
structure InstrumentedAlike (s s' : Scene) : Prop where
  inject : ∀ lifecycle registry,
    EndAlike (s.inject lifecycle registry) (s'.inject lifecycle registry)
  wrap : ∀ m helper selects,
    EndAlike (s.rewriteBody m id fun b _ => b.wrapFirstArgument helper selects)
      (s'.rewriteBody m id fun b _ => b.wrapFirstArgument helper selects)
  /-- A method and its counterpart get the same report or the same fault and, if there is no
  fault, the same statements. -/
  replaceType : ∀ {m b b'}, s.body m = .ok b → s'.body m = .ok b' → ∀ old new,
    (b'.replaceType s' old new).1 = (b.replaceType s old new).1 ∧
      ((b.replaceType s old new).1.isOk = true →
        (b'.replaceType s' old new).2.statements = (b.replaceType s old new).2.statements)

/-- **Regrouped scenes are instrumented alike.** -/
theorem Regrouped.instrumentedAlike (h : s.Regrouped s') (hs : s.EveryBody Body.Sound)
    (hs' : s'.EveryBody Body.Sound) : s.InstrumentedAlike s' where
  inject lifecycle registry := by
    rw [inject, inject]
    split
    · exact ⟨rfl, h, h.texts_eq⟩
    · obtain ⟨houtcome, hscenes, htexts⟩ := h.rewriteBody lifecycle.creation Error.code
        (fun body scene => body.injectCalls scene lifecycle registry)
        fun b b' hb hb' hbodies =>
          hbodies.injectCalls (hs.of_body hb) (hs'.of_body hb') h lifecycle registry
      exact ⟨congrArg (Except.map InjectionOutcome.injected) houtcome, hscenes, htexts⟩
  wrap m helper selects :=
    h.rewriteBody m id (fun b _ => b.wrapFirstArgument helper selects) fun b b' hb hb' hbodies =>
      hbodies.wrapFirstArgument (hs.of_body hb) (hs'.of_body hb') helper selects
  replaceType := by
    intro m b b' hb hb' old new
    obtain ⟨fault, hfault, -⟩ | ⟨c, c', hc, hc', hbodies⟩ := h.body_cases m
    · rw [hfault] at hb
      cases hb
    · obtain rfl := Except.ok.inj (hc.symm.trans hb)
      obtain rfl := Except.ok.inj (hc'.symm.trans hb')
      exact hbodies.replaceType (hs.of_body hc) (hs'.of_body hc') h old new

/-- What is read back from a class takes its place in a scene: this is **a regrouped scene**, and
its bodies are sound. -/
theorem exists_reloaded {c : Class} (hc : c ∈ s.classes) (hform : c.WellFormed)
    (hs : s.EveryBody Body.Sound) :
    ∃ c', Class.read c.text = .ok c' ∧ s.Regrouped (s.add c') ∧
      (s.add c').EveryBody Body.Sound := by
  refine ⟨c.normalized, hform.read_text, regrouped_add hc c.regrouped_normalized, ?_⟩
  intro k hk m hm b hb
  obtain rfl | hk := mem_or_eq_of_mem_insertSorted hk
  · exact Class.read_sound hform.read_text hm hb
  · exact hs k hk m hm b hb

/-- **Instrumentation does not depend on how locals are grouped.** Scenes whose bodies differ only
in how locals of different types are interleaved are instrumented alike; and so are a scene and
the same one with a class that has been printed and read again. -/
theorem instrumentation_regrouped (h : s.Regrouped s') (hs : s.EveryBody Body.Sound)
    (hs' : s'.EveryBody Body.Sound) :
    s.InstrumentedAlike s' ∧ ∀ c ∈ s.classes, c.WellFormed →
      ∃ c', Class.read c.text = .ok c' ∧ s.InstrumentedAlike (s.add c') := by
  refine ⟨h.instrumentedAlike hs hs', fun c hc hform => ?_⟩
  obtain ⟨c', hread, hregrouped, hsound⟩ := exists_reloaded hc hform hs
  exact ⟨c', hread, hregrouped.instrumentedAlike hs hsound⟩

end Scene

namespace SampleListing

/-- The scene after its class has been printed and read again. -/
def reloaded : Scene :=
  scene.add greeter.normalized

/-- The printed class groups its locals, and is instrumented like the one before. -/
theorem instrumentation_regrouped_greeter :
    scene.Regrouped reloaded ∧ body.normalized.locals ≠ body.locals ∧
      scene.InstrumentedAlike reloaded := by
  have hbody : body.Sound := ⟨by decide, by decide, by decide⟩
  have hsound : scene.EveryBody Body.Sound := by
    intro c hc m hm b hb
    obtain rfl := List.mem_singleton.1 hc
    obtain rfl := List.mem_singleton.1 hm
    obtain rfl := Option.some.inj hb
    exact hbody
  obtain ⟨c', hread, hregrouped, hsound'⟩ :=
    Scene.exists_reloaded (List.mem_singleton_self greeter) wellFormed_greeter hsound
  obtain rfl : greeter.normalized = c' :=
    Except.ok.inj (wellFormed_greeter.read_text.symm.trans hread)
  exact ⟨hregrouped, by decide, (Scene.instrumentation_regrouped hregrouped hsound hsound').1⟩

end SampleListing

end Weaver
