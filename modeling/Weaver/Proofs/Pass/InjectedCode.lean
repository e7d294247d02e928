import Weaver.Pass.Injection
import Weaver.Proofs.Jimple.Chain
import Weaver.Proofs.Jimple.FreshLocals

/-!
# The Code of an Injection

The builder of an injection threads a growing list of statements and a growing body
through three loops. Here the code that it leaves is described without it, as fragments
that are put one behind the other: what stands for an argument, a call, a listener, a
handler and the context. Every function of the builder then has one law, which says that
it **emits** a fragment of its kind and does nothing else.

## Convention

A fragment carries the locals it declares next to its statements, and the concatenation
of fragments concatenates both. Which names the locals have is left to
`Body.FreshInTurn`, which `Block.Emits` asks for.

## Main results

* `Block.Emits.trans`, `Block.exists_emits_foldl`: emitted code is a concatenation.
* `CallSite.placeholder_emits`, `CallSite.callListener_emits`, `CallSite.callHandler_emits`:
  one law for each function of the builder.
* `Body.injectCalls_eq_ok`: all that a successful injection does to a body.
* `Scene.inject_code`: **the injected block is the specified program**.
-/

namespace Weaver

/-- Only class types name a class. -/
theorem Ty.className?_eq_some {ty : Ty} {cls : ClassName} :
    ty.className? = some cls ↔ ty = .ref cls := by
  cases ty <;> simp [className?]

/-! ### Fragments -/

/-- What a part of an injection adds to a body: locals and statements, each in order. -/
structure Fragment where
  locals : List Local
  stmts : List Stmt

namespace Fragment

/-- The fragment without locals and statements. -/
def empty : Fragment :=
  ⟨[], []⟩

/-- The fragment of one statement. -/
def ofStmt (s : Stmt) : Fragment :=
  ⟨[], [s]⟩

instance : Append Fragment :=
  ⟨fun f g => ⟨f.locals ++ g.locals, f.stmts ++ g.stmts⟩⟩

@[simp] theorem locals_append (f g : Fragment) : (f ++ g).locals = f.locals ++ g.locals :=
  rfl

@[simp] theorem stmts_append (f g : Fragment) : (f ++ g).stmts = f.stmts ++ g.stmts :=
  rfl

/-- The fragment is the **concatenation** of one piece for each element of a list. -/
inductive Concat {α : Type} (piece : α → Fragment → Prop) : List α → Fragment → Prop
  | nil : Concat piece [] empty
  | cons {x : α} {xs : List α} {f g : Fragment} :
      piece x f → Concat piece xs g → Concat piece (x :: xs) (f ++ g)

end Fragment

/-! ### The code of arguments and calls -/

namespace CallSite

/-- Objects of the class `cls` are built by the constructor `ctor` with the arguments `args`:
the scene has the class, which is neither an interface nor abstract and declares `ctor`.
The constructor that takes a context is preferred to the one without parameters. -/
def Constructible (site : CallSite) (cls : ClassName) (ctor : Signature) (args : List Value) :
    Prop :=
  ∃ c, site.scene.class? cls = some c ∧ c.isInterface = false ∧ Modifier.abstract ∉ c.modifiers ∧
    c.declares ctor = true ∧
    (ctor = contextConstructor ∧ args = [.var site.context] ∨
      c.declares contextConstructor = false ∧ ctor = plainConstructor ∧ args = [])

/-- What is passed for a parameter of a type, with the code that has to run before. -/
inductive ArgumentCode (site : CallSite) : Ty → Value → Fragment → Prop
  | primitive {ty : Ty} (hty : ty.isPrimitive = true) :
      ArgumentCode site ty (.const (.default ty)) .empty
  | string : ArgumentCode site (.class_ stringClass) (.const (.string [])) .empty
  | context : ArgumentCode site (.class_ contextClass) (.var site.context) .empty
  /-- A constructible class: one allocation, directly followed by one constructor call. -/
  | object {cls : ClassName} {ctor : Signature} {args : List Value} (name : Text)
      (hstring : cls.chars ≠ stringClass) (hcontext : cls.chars ≠ contextClass)
      (hctor : site.Constructible cls ctor args) :
      ArgumentCode site (.ref cls) (.var name)
        ⟨[⟨name, .ref cls⟩],
          [.assignVar name (.alloc cls), .invoke ⟨.special, some name, ⟨cls, ctor⟩, args⟩]⟩
  | opaque_ {ty : Ty} (hprimitive : ty.isPrimitive = false) (hstring : ty ≠ .class_ stringClass)
      (hcontext : ty ≠ .class_ contextClass)
      (hctor : ∀ cls ctor args, ty = .ref cls → ¬site.Constructible cls ctor args) :
      ArgumentCode site ty (.const .null) .empty

/-- What is passed for a list of parameters, with the code for one after the other. -/
inductive ArgumentsCode (site : CallSite) : List Ty → List Value → Fragment → Prop
  | nil : ArgumentsCode site [] [] .empty
  | cons {ty : Ty} {tys : List Ty} {v : Value} {vs : List Value} {f g : Fragment} :
      site.ArgumentCode ty v f → ArgumentsCode site tys vs g →
        ArgumentsCode site (ty :: tys) (v :: vs) (f ++ g)

/-- A call on a local: the code of its arguments, **directly followed** by the call. -/
def CallCode (site : CallSite) (kind : CallKind) (base : Text) (m : MethodRef) (f : Fragment) :
    Prop :=
  ∃ args g, site.ArgumentsCode m.sig.params args g ∧
    f = g ++ .ofStmt (.invoke ⟨kind, some base, m, args⟩)

/-- The calls of a listener: its field is loaded into a new local, and each callback of the
interface is called on this local. -/
def ListenerCode (site : CallSite) (cls : ClassName) (registry : ListenerRegistry) (f : Field)
    (code : Fragment) : Prop :=
  ∃ interface name calls, f.ty = .ref interface ∧
    Fragment.Concat (fun sig => site.CallCode .interface name ⟨interface, sig⟩)
      (registry.callbacks interface) calls ∧
    code = ⟨[⟨name, f.ty⟩], [.assignVar name
      (if .static ∈ f.modifiers then .staticField ⟨cls, f.ty, f.name⟩
        else .instanceField site.this ⟨cls, f.ty, f.name⟩)]⟩ ++ calls

/-- The call of a click handler on the receiver. -/
def HandlerCode (site : CallSite) (cls : ClassName) (sig : Signature) (code : Fragment) : Prop :=
  site.CallCode .virtual site.this ⟨cls, sig⟩ code

end CallSite

/-! ### The code of a whole injection -/

/-- The method that an object is asked for its context by. -/
def applicationContext : MethodRef :=
  { cls := ⟨contextClass⟩
    sig := { ret := .class_ contextClass, name := "getApplicationContext".toList, params := [] } }

/-- Where the context comes from: the last declared local of its type or, if there is **no
such local**, a new one that the receiver is asked for it into. -/
inductive ContextCode (b : Body) (this : Text) : Text → Bool → Fragment → Prop
  | declared {before after : List Local} {l : Local} (hb : b.locals = before ++ l :: after)
      (hty : l.ty = .class_ contextClass) (hafter : ∀ l' ∈ after, l'.ty ≠ .class_ contextClass) :
      ContextCode b this l.name false .empty
  | generated (name : Text) (hnone : ∀ l ∈ b.locals, l.ty ≠ .class_ contextClass) :
      ContextCode b this name true ⟨[⟨name, .class_ contextClass⟩],
        [.assignVar name (.call ⟨.virtual, some this, applicationContext, []⟩)]⟩

/-- **The specified program**: the context, then every listener field as declared, then
every handler in order. -/
def InjectionCode (s : Scene) (registry : ListenerRegistry) (lifecycle : Lifecycle) (b : Body)
    (this context : Text) (generated : Bool) (code : Fragment) : Prop :=
  ∃ provided listeners handlers,
    ContextCode b this context generated provided ∧
    Fragment.Concat (CallSite.ListenerCode ⟨s, this, context⟩ lifecycle.cls registry)
      lifecycle.listenerFields listeners ∧
    Fragment.Concat (CallSite.HandlerCode ⟨s, this, context⟩ lifecycle.cls)
      lifecycle.handlers handlers ∧
    code = provided ++ listeners ++ handlers

/-! ### Emitting a fragment -/

namespace Block

/-- The block `b'` is `b` after a fragment was **emitted**: its statements stand behind those
of `b`, its locals were declared freshly one after the other, and that is all. -/
structure Emits (b : Block) (f : Fragment) (b' : Block) : Prop where
  body : b'.body = b.body.withLocals f.locals
  stmts : b'.stmts = b.stmts ++ f.stmts
  fresh : b.body.FreshInTurn f.locals

theorem Emits.refl (b : Block) : b.Emits .empty b :=
  ⟨(Body.withLocals_nil _).symm, (List.append_nil _).symm, trivial⟩

/-- Two fragments emitted one after the other are their concatenation. -/
theorem Emits.trans {b b' b'' : Block} {f g : Fragment} (hf : b.Emits f b')
    (hg : b'.Emits g b'') : b.Emits (f ++ g) b'' := by
  refine ⟨?_, ?_, Body.freshInTurn_append.2 ⟨hf.fresh, hf.body ▸ hg.fresh⟩⟩
  · rw [hg.body, hf.body, Fragment.locals_append, Body.withLocals_append]
  · rw [hg.stmts, hf.stmts, Fragment.stmts_append, List.append_assoc]

/-- Adding a statement emits it. -/
theorem emits_push (b : Block) (s : Stmt) : b.Emits (.ofStmt s) (b.push s) :=
  ⟨(Body.withLocals_nil _).symm, rfl, trivial⟩

/-- Generating a local emits its declaration. -/
theorem generateLocal_emits (b : Block) (ty : Ty) :
    b.Emits ⟨[⟨(b.generateLocal ty).1, ty⟩], []⟩ (b.generateLocal ty).2 := by
  obtain ⟨l, rfl, hfresh, heq⟩ := b.body.isFresh_generateLocal ty
  simp only [generateLocal, heq]
  exact ⟨rfl, (List.append_nil _).symm, hfresh, trivial⟩

/-- A loop whose body emits a piece for its element emits **the concatenation** of the
pieces. -/
theorem exists_emits_foldl {α : Type} {piece : α → Fragment → Prop} {step : Block → α → Block}
    {xs : List α} (hstep : ∀ b : Block, ∀ x ∈ xs, ∃ f, piece x f ∧ b.Emits f (step b x))
    (b : Block) :
    ∃ f, Fragment.Concat piece xs f ∧ b.Emits f (xs.foldl step b) := by
  induction xs generalizing b with
  | nil => exact ⟨.empty, .nil, .refl b⟩
  | cons x xs ih =>
    obtain ⟨f, hf, hbf⟩ := hstep b x List.mem_cons_self
    obtain ⟨g, hg, hbg⟩ := ih (fun b y hy => hstep b y (List.mem_cons_of_mem x hy)) (step b x)
    exact ⟨f ++ g, .cons hf hg, hbf.trans hbg⟩

end Block

/-! ### The laws of the builder -/

namespace CallSite

/-- The search for a constructor finds exactly the one to build objects by. -/
theorem constructor?_spec (site : CallSite) (cls : ClassName) :
    match site.constructor? cls with
    | none => ∀ ctor args, ¬site.Constructible cls ctor args
    | some (c, ctor, args) => c.name = cls ∧ site.Constructible cls ctor args := by
  cases hc : site.scene.class? cls with
  | none => simp [constructor?, hc, Constructible]
  | some c =>
    have hname : c.name = cls := Scene.name_of_class? hc
    by_cases habs : c.isAbstract = true
    · simp only [constructor?, hc, habs, if_true]
      rintro ctor args ⟨c', hc', hint, hmod, -⟩
      obtain rfl : c = c' := by rwa [hc, Option.some.injEq] at hc'
      simp [Class.isAbstract, hint, hmod] at habs
    · obtain ⟨hint, hmod⟩ : c.isInterface = false ∧ Modifier.abstract ∉ c.modifiers := by
        simpa [Class.isAbstract] using habs
      by_cases hctx : c.declares contextConstructor = true
      · simp only [constructor?, hc, habs, hctx, if_true, Bool.false_eq_true, if_false]
        exact ⟨hname, c, hc, hint, hmod, hctx, .inl ⟨rfl, rfl⟩⟩
      · by_cases hplain : c.declares plainConstructor = true
        · simp only [constructor?, hc, habs, hctx, hplain, if_true, Bool.false_eq_true, if_false]
          exact ⟨hname, c, hc, hint, hmod, hplain, .inr ⟨by simpa using hctx, rfl, rfl⟩⟩
        · simp only [constructor?, hc, habs, hctx, hplain, Bool.false_eq_true, if_false]
          rintro ctor args ⟨c', hc', -, -, hdecl, hcase⟩
          obtain rfl : c = c' := by rwa [hc, Option.some.injEq] at hc'
          obtain ⟨rfl, -⟩ | ⟨-, rfl, -⟩ := hcase
          · exact hctx hdecl
          · exact hplain hdecl

/-- **An argument** costs the code of its type. -/
theorem placeholder_emits (site : CallSite) (ty : Ty) (b : Block) :
    ∃ f, site.ArgumentCode ty (site.placeholder ty b).1 f ∧
      b.Emits f (site.placeholder ty b).2 := by
  -- In the order in which the types are tried.
  by_cases hprim : ty.isPrimitive = true
  · rw [placeholder, if_pos hprim]
    exact ⟨.empty, .primitive hprim, .refl b⟩
  by_cases hstring : ty.isClass stringClass = true
  · rw [placeholder, if_neg hprim, if_pos hstring, Ty.isClass_iff.1 hstring]
    exact ⟨.empty, .string, .refl b⟩
  by_cases hcontext : ty.isClass contextClass = true
  · rw [placeholder, if_neg hprim, if_neg hstring, if_pos hcontext, Ty.isClass_iff.1 hcontext]
    exact ⟨.empty, .context, .refl b⟩
  rw [placeholder, if_neg hprim, if_neg hstring, if_neg hcontext]
  rw [Bool.not_eq_true] at hprim
  rw [Ty.isClass_iff] at hstring hcontext
  cases hcls : ty.className? with
  | none =>
    refine ⟨.empty, .opaque_ hprim hstring hcontext ?_, .refl b⟩
    rintro cls - - rfl
    cases hcls
  | some cls =>
    obtain rfl := Ty.className?_eq_some.1 hcls
    have hspec := site.constructor?_spec cls
    cases hctor : site.constructor? cls with
    | none =>
      rw [hctor] at hspec
      simp only [construct, hctor]
      refine ⟨.empty, .opaque_ hprim hstring hcontext ?_, .refl b⟩
      rintro cls' ctor args ⟨⟩
      exact hspec ctor args
    | some found =>
      obtain ⟨c, ctor, args⟩ := found
      rw [hctor] at hspec
      obtain ⟨rfl, hbuild⟩ := hspec
      simp only [construct, hctor]
      have hnew := b.generateLocal_emits (.ref c.name)
      refine ⟨_, .object _ (fun h => hstring ?_) (fun h => hcontext ?_) hbuild,
        (hnew.trans (Block.emits_push _ _)).trans (Block.emits_push _ _)⟩
      · exact congrArg Ty.ref (congrArg ClassName.mk h)
      · exact congrArg Ty.ref (congrArg ClassName.mk h)

/-- **Arguments** cost the code of their types, one after the other. -/
theorem placeholders_emits (site : CallSite) (tys : List Ty) (b : Block) :
    ∃ f, site.ArgumentsCode tys (site.placeholders tys b).1 f ∧
      b.Emits f (site.placeholders tys b).2 := by
  induction tys generalizing b with
  | nil => exact ⟨.empty, .nil, .refl b⟩
  | cons ty tys ih =>
    obtain ⟨f, hf, hbf⟩ := site.placeholder_emits ty b
    obtain ⟨g, hg, hbg⟩ := ih (site.placeholder ty b).2
    exact ⟨f ++ g, .cons hf hg, hbf.trans hbg⟩

/-- **A call** costs its arguments and itself. -/
theorem call_emits (site : CallSite) (kind : CallKind) (base : Text) (m : MethodRef) (b : Block) :
    ∃ f, site.CallCode kind base m f ∧
      b.Emits f ((site.placeholders m.sig.params b).2.push
        (.invoke ⟨kind, some base, m, (site.placeholders m.sig.params b).1⟩)) := by
  obtain ⟨f, hf, hbf⟩ := site.placeholders_emits m.sig.params b
  exact ⟨_, ⟨_, f, hf, rfl⟩, hbf.trans (Block.emits_push _ _)⟩

/-- The callbacks of a listener cost one call each. -/
theorem callbacks_emits (site : CallSite) (interface : ClassName) (name : Text)
    (sigs : List Signature) (b : Block) :
    ∃ f, Fragment.Concat (fun sig => site.CallCode .interface name ⟨interface, sig⟩) sigs f ∧
      b.Emits f (sigs.foldl (site.callback interface name) b) :=
  Block.exists_emits_foldl (fun b sig _ => site.call_emits .interface name ⟨interface, sig⟩ b) b

/-- A field is read from its class if it is static, else from the receiver. -/
theorem fieldValue_eq (site : CallSite) (cls : ClassName) (f : Field) :
    site.fieldValue cls f = if .static ∈ f.modifiers then .staticField ⟨cls, f.ty, f.name⟩
      else .instanceField site.this ⟨cls, f.ty, f.name⟩ := by
  simp [fieldValue, Field.isStatic, Field.refIn]

/-- **A listener** costs its load and its callbacks. -/
theorem callListener_emits (site : CallSite) (cls : ClassName) (registry : ListenerRegistry)
    {f : Field} {interface : ClassName} (hty : f.ty = .ref interface) (b : Block) :
    ∃ code, site.ListenerCode cls registry f code ∧
      b.Emits code (site.callListener cls registry b f) := by
  have hstep : site.callListener cls registry b f =
      (registry.callbacks interface).foldl
        (site.callback interface (b.generateLocal f.ty).1)
        ((b.generateLocal f.ty).2.push
          (.assignVar (b.generateLocal f.ty).1 (site.fieldValue cls f))) := by
    rw [callListener, Ty.className?_eq_some.2 hty]
  obtain ⟨calls, hcalls, hemits⟩ := site.callbacks_emits interface (b.generateLocal f.ty).1
    (registry.callbacks interface) ((b.generateLocal f.ty).2.push
      (.assignVar (b.generateLocal f.ty).1 (site.fieldValue cls f)))
  refine ⟨_, ⟨interface, (b.generateLocal f.ty).1, calls, hty, hcalls, rfl⟩, ?_⟩
  rw [hstep, ← fieldValue_eq]
  exact ((b.generateLocal_emits f.ty).trans (Block.emits_push _ _)).trans hemits

/-- **A handler** costs its call. -/
theorem callHandler_emits (site : CallSite) (cls : ClassName) (sig : Signature) (b : Block) :
    ∃ code, site.HandlerCode cls sig code ∧ b.Emits code (site.callHandler cls b sig) :=
  site.call_emits .virtual site.this ⟨cls, sig⟩ b

end CallSite

namespace Body

/-- Without a local of its type, there is no context. -/
theorem contextLocal?_eq_none {b : Body} (h : b.contextLocal? = none) :
    ∀ l ∈ b.locals, l.ty ≠ .class_ contextClass := by
  rw [contextLocal?, Option.map_eq_none_iff, List.find?_eq_none] at h
  intro l hl hty
  exact h l (List.mem_reverse.2 hl) (Ty.isClass_iff.2 hty)

/-- The context is the last declared local of its type. -/
theorem contextLocal?_eq_some {b : Body} {name : Text} (h : b.contextLocal? = some name) :
    ∃ before l after, b.locals = before ++ l :: after ∧ l.name = name ∧
      l.ty = .class_ contextClass ∧ ∀ l' ∈ after, l'.ty ≠ .class_ contextClass := by
  obtain ⟨l, hfind, rfl⟩ := Option.map_eq_some_iff.1 h
  obtain ⟨hty, after, before, hsplit, hafter⟩ := List.find?_eq_some_iff_append.1 hfind
  refine ⟨before.reverse, l, after.reverse, ?_, rfl, Ty.isClass_iff.1 hty, ?_⟩
  · rw [← List.reverse_reverse b.locals, hsplit]
    simp
  · intro l' hl' hty'
    have := hafter l' (List.mem_reverse.1 hl')
    rw [Ty.isClass_iff.2 hty'] at this
    cases this

/-- **The context** costs nothing or one call. -/
theorem provideContext_emits (b : Body) (this : Text) :
    ∃ code, ContextCode b this (b.provideContext this).1 b.contextLocal?.isNone code ∧
      Block.Emits ⟨b, []⟩ code (b.provideContext this).2 := by
  cases h : b.contextLocal? with
  | none =>
    simp only [provideContext, h]
    exact ⟨_, .generated _ (contextLocal?_eq_none h),
      (Block.generateLocal_emits ⟨b, []⟩ (.class_ contextClass)).trans (Block.emits_push _ _)⟩
  | some name =>
    obtain ⟨before, l, after, hb, rfl, hty, hafter⟩ := contextLocal?_eq_some h
    simp only [provideContext, h]
    exact ⟨.empty, .declared hb hty hafter, .refl _⟩

/-- **The whole block** is the specified program. -/
theorem buildCalls_emits (b : Body) (s : Scene) {lifecycle : Lifecycle}
    (registry : ListenerRegistry) (this : Text)
    (hfields : ∀ f ∈ lifecycle.listenerFields, ∃ interface, f.ty = .ref interface) :
    ∃ code, InjectionCode s registry lifecycle b this
        (b.buildCalls s lifecycle registry this).1 b.contextLocal?.isNone code ∧
      Block.Emits ⟨b, []⟩ code (b.buildCalls s lifecycle registry this).2 := by
  obtain ⟨provided, hprovided, hemits⟩ := b.provideContext_emits this
  let site : CallSite := ⟨s, this, (b.provideContext this).1⟩
  obtain ⟨listeners, hlisteners, hemits₁⟩ : ∃ f,
      Fragment.Concat (site.ListenerCode lifecycle.cls registry) lifecycle.listenerFields f ∧
      (b.provideContext this).2.Emits f (lifecycle.listenerFields.foldl
        (site.callListener lifecycle.cls registry) (b.provideContext this).2) :=
    Block.exists_emits_foldl (fun b f hf =>
      site.callListener_emits lifecycle.cls registry (hfields f hf).choose_spec b) _
  obtain ⟨handlers, hhandlers, hemits₂⟩ := Block.exists_emits_foldl
    (fun b sig (_ : sig ∈ lifecycle.handlers) => site.callHandler_emits lifecycle.cls sig b)
    (lifecycle.listenerFields.foldl (site.callListener lifecycle.cls registry)
      (b.provideContext this).2)
  exact ⟨_, ⟨provided, listeners, handlers, hprovided, hlisteners, hhandlers, rfl⟩,
    (hemits.trans hemits₁).trans hemits₂⟩

/-- The body `b'` is `b` with a fragment **woven in** at a cut of the chain: its statements,
under new handles, stand directly before the statement behind the cut, its locals were
declared freshly behind those of `b`, and that is all. -/
def Woven (b : Body) (pre : List (StmtId × Stmt)) (cut : StmtId × Stmt)
    (post : List (StmtId × Stmt)) (code : Fragment) (b' : Body) : Prop :=
  b.stmts = pre ++ cut :: post ∧ b.FreshInTurn code.locals ∧
  b' = { b with
    locals := b.locals ++ code.locals
    stmts := pre ++ numbered b.nextId code.stmts ++ cut :: post
    nextId := b.nextId + code.stmts.length }

/-- **All that a successful injection does** to a body. -/
theorem injectCalls_eq_ok {b b' : Body} {s : Scene} {lifecycle : Lifecycle}
    {registry : ListenerRegistry} {report : InjectionReport}
    (hfields : ∀ f ∈ lifecycle.listenerFields, ∃ interface, f.ty = .ref interface)
    (h : b.injectCalls s lifecycle registry = (.ok report, b')) :
    ∃ pre anchor stmt post this code,
      b.terminalReturn? = some anchor ∧ anchor ∉ pre.map Prod.fst ∧
      b.thisLocal? = some this ∧
      InjectionCode s registry lifecycle b this.name report.contextLocal
        report.generatedContext code ∧
      b.Woven pre (anchor, stmt) post code b' ∧
      report.method = b.method ∧ report.fields = lifecycle.listenerFields.map Field.name ∧
      report.handlers = lifecycle.handlers ∧ report.inserted = code.stmts.length := by
  cases hret : b.terminalReturn? with
  | none => simp [injectCalls, hret] at h
  | some anchor =>
    cases hthis : b.thisLocal? with
    | none => simp [injectCalls, hret, hthis] at h
    | some this =>
      obtain ⟨code, hcode, hbody, hstmts, hfresh⟩ := b.buildCalls_emits s registry this.name hfields
      simp only [injectCalls, hret, hthis] at h
      split at h
      · cases h
      next ids body hins =>
        rw [Prod.mk.injEq, Except.ok.injEq] at h
        obtain ⟨rfl, rfl⟩ := h
        obtain ⟨pre, stmt, post, hcut, hpre, rfl, rfl⟩ := insertBefore_eq_ok hins
        rw [hbody] at hcut
        refine ⟨pre, anchor, stmt, post, this, code, rfl, hpre, rfl, hcode, ⟨hcut, hfresh, ?_⟩,
          rfl, rfl, rfl, ?_⟩
        · rw [hbody, hstmts]
          rfl
        · rw [hstmts]
          simp

end Body

/-! ### From discovery to the scene -/

namespace Scene

/-- **What discovery finds**, if it finds anything: the creation method, the listener fields
of its class as declared, and the handlers of its class in strictly increasing order. -/
theorem lifecycle_eq_ok {s : Scene} {registry : ListenerRegistry} {source : HandlerSource}
    {sig : Signature} {lifecycle : Lifecycle}
    (h : s.lifecycle registry source sig = .ok lifecycle) :
    s.creationMethod sig = .ok lifecycle.creation ∧
    ∃ c handlers, s.class? lifecycle.cls = some c ∧ source = .ok handlers ∧
      lifecycle.listenerFields = c.listenerFields registry ∧
      lifecycle.handlers = c.declaredHandlers handlers := by
  unfold Scene.lifecycle at h
  split at h
  · cases h
  next creation hcreation =>
    split at h
    · cases h
    next c hc =>
      split at h
      · cases h
      next handlers =>
        obtain rfl := Except.ok.inj h
        exact ⟨hcreation, c, handlers, hc, rfl, rfl, rfl⟩

end Scene

/-- The listener fields are those whose type is a listener interface. -/
theorem Class.mem_listenerFields {c : Class} {registry : ListenerRegistry} {f : Field} :
    f ∈ c.listenerFields registry ↔
      f ∈ c.fields ∧ ∃ interface, f.ty = .ref interface ∧ registry.contains interface = true := by
  rw [listenerFields, List.mem_filter]
  refine and_congr_right fun _ => ?_
  cases h : f.ty.className? with
  | none =>
    simp only [Bool.false_eq_true, false_iff]
    rintro ⟨interface, hty, -⟩
    rw [Ty.className?_eq_some.2 hty] at h
    cases h
  | some interface => simp [Ty.className?_eq_some.1 h]

/-- The declared handlers are in increasing order. -/
theorem Class.increasing_declaredHandlers (c : Class) (handlers : SignatureSet) :
    Increasing Signature.compare (c.declaredHandlers handlers) :=
  handlers.increasing.filter _

namespace Scene

/-- Listeners are held in fields of class types. -/
theorem ref_of_mem_listenerFields {s : Scene} {registry : ListenerRegistry}
    {source : HandlerSource} {sig : Signature} {lifecycle : Lifecycle}
    (h : s.lifecycle registry source sig = .ok lifecycle) :
    ∀ f ∈ lifecycle.listenerFields, ∃ interface, f.ty = .ref interface := by
  intro f hf
  obtain ⟨-, c, handlers, -, -, hfields, -⟩ := lifecycle_eq_ok h
  rw [hfields, Class.mem_listenerFields] at hf
  obtain ⟨-, interface, hty, -⟩ := hf
  exact ⟨interface, hty⟩

/-- **All that an injection can do**: there is nothing to inject, or it fails, both without
a trace, or it changes the body of the creation method. -/
theorem inject_cases (s : Scene) (lifecycle : Lifecycle) (registry : ListenerRegistry) :
    s.inject lifecycle registry = (.ok .nothingToInject, s) ∨
    (∃ e, s.inject lifecycle registry = (.error e, s)) ∨
    ∃ b b' report, s.body lifecycle.creation = .ok b ∧
      b.injectCalls s lifecycle registry = (.ok report, b') ∧
      s.inject lifecycle registry =
        (.ok (.injected report), s.setBody lifecycle.creation b') := by
  cases hempty : lifecycle.isEmpty with
  | true => exact .inl (by rw [inject, if_pos hempty])
  | false =>
    obtain ⟨e, he⟩ | ⟨b, b', report, hb, hcalls, hr⟩ := s.rewriteBody_cases lifecycle.creation
      Error.code fun body scene => body.injectCalls scene lifecycle registry
    · refine .inr (.inl ⟨e, ?_⟩)
      simp [inject, hempty, he, Except.map]
    · refine .inr (.inr ⟨b, b', report, hb, hcalls, ?_⟩)
      simp [inject, hempty, hr, Except.map]

/-- A successful injection changes one body, by the calls that were built for it. -/
theorem inject_eq_injected {s s' : Scene} {lifecycle : Lifecycle} {registry : ListenerRegistry}
    {report : InjectionReport}
    (h : s.inject lifecycle registry = (.ok (.injected report), s')) :
    ∃ b b', s.body lifecycle.creation = .ok b ∧
      b.injectCalls s lifecycle registry = (.ok report, b') ∧
      s' = s.setBody lifecycle.creation b' := by
  obtain hr | ⟨e, hr⟩ | ⟨b, b', report', hb, hcalls, hr⟩ := s.inject_cases lifecycle registry
  · rw [hr] at h
    cases h
  · rw [hr] at h
    cases h
  · rw [hr, Prod.mk.injEq, Except.ok.injEq, InjectionOutcome.injected.injEq] at h
    obtain ⟨rfl, rfl⟩ := h
    exact ⟨b, b', hb, hcalls, rfl⟩

/-- **The injected block is the specified program.** Whatever discovery returns, an
injection that reports success has woven the specified program into the creation method,
in front of the statement that its last return without a value has the handle of: with
distinct handles, in front of this return. -/
theorem inject_code {s s' : Scene} {registry : ListenerRegistry} {source : HandlerSource}
    {sig : Signature} {lifecycle : Lifecycle} {report : InjectionReport}
    (hl : s.lifecycle registry source sig = .ok lifecycle)
    (h : s.inject lifecycle registry = (.ok (.injected report), s')) :
    ∃ b b' pre anchor stmt post this code,
      s.body lifecycle.creation = .ok b ∧ s'.body lifecycle.creation = .ok b' ∧
      b.terminalReturn? = some anchor ∧ anchor ∉ pre.map Prod.fst ∧
      (b.ids.Nodup → stmt = .ret none ∧ ∀ e ∈ post, e.2.isVoidReturn = false) ∧
      b.thisLocal? = some this ∧
      InjectionCode s registry lifecycle b this.name report.contextLocal
        report.generatedContext code ∧
      b.Woven pre (anchor, stmt) post code b' ∧
      (∃ c, s.class? lifecycle.cls = some c ∧
        lifecycle.listenerFields = c.listenerFields registry) ∧
      lifecycle.handlers.Pairwise (fun a b => a.compare b = .lt) ∧
      report.fields = lifecycle.listenerFields.map Field.name ∧
      report.handlers = lifecycle.handlers ∧ report.inserted = code.stmts.length := by
  obtain ⟨-, c, handlers, hc, -, hfields, hhandlers⟩ := lifecycle_eq_ok hl
  obtain ⟨b, b', hb, hcalls, rfl⟩ := inject_eq_injected h
  obtain ⟨pre, anchor, stmt, post, this, code, hret, hpre, hthis, hcode, hwoven, -, hrf, hrh,
    hri⟩ :=
    Body.injectCalls_eq_ok (ref_of_mem_listenerFields hl) hcalls
  refine ⟨b, b', pre, anchor, stmt, post, this, code, hb, (setBody_differsInBody hb b').body_eq,
    hret, hpre, fun hnd => ?_, hthis, hcode, hwoven, ⟨c, hc, hfields⟩, ?_, hrf, hrh, hri⟩
  · exact Body.eq_ret_of_terminalReturn? hnd hret hwoven.1
  · rw [hhandlers]
    exact c.increasing_declaredHandlers handlers

end Scene

/-! ### An activity with one listener -/

namespace SampleActivity

/-- The interface of the listener. -/
def listener : ClassName :=
  ⟨"app.Listener".toList⟩

/-- What the listener is told about; objects can be built. -/
def item : Class :=
  { name := ⟨"app.Item".toList⟩, modifiers := [], isInterface := false, superclass := none
    interfaces := [], fields := []
    methods := [{ sig := CallSite.plainConstructor, modifiers := [], throws := [], body := none }] }

/-- The creation method. -/
def creation : MethodRef :=
  { cls := ⟨"app.Main".toList⟩, sig := creationSignature }

/-- The body of the creation method. -/
def body : Body :=
  { method := creation
    locals := [⟨"this".toList, .ref creation.cls⟩]
    stmts := [(⟨0⟩, .identity "this".toList (.this (.ref creation.cls))), (⟨1⟩, .ret none)]
    nextId := 2 }

/-- The activity. -/
def activity : Class :=
  { name := creation.cls, modifiers := [], isInterface := false, superclass := none
    interfaces := []
    fields := [{ name := "listener".toList, ty := .ref listener, modifiers := [] }]
    methods := [{ sig := creationSignature, modifiers := [], throws := [], body := some body }] }

/-- The scene. -/
def scene : Scene :=
  { classes := [item, activity], entryPoints := [creation]
    ordered := by
      rw [Increasing]
      decide }

/-- The listener is called back with an item. -/
def registry : ListenerRegistry :=
  { entries := [(listener, [⟨.void, "onItem".toList, [.ref item.name]⟩])] }

/-- What discovery finds. -/
def lifecycle : Lifecycle :=
  { creation, listenerFields := activity.fields, handlers := [] }

/-- What the injection reports. -/
def report : InjectionReport :=
  { method := creation, fields := ["listener".toList], handlers := [], contextLocal := "$r0".toList
    generatedContext := true, inserted := 5 }

/-- What holds of the body of the creation method holds of every body of the scene. -/
theorem everyBody_scene {p : Body → Prop} (h : p body) : scene.EveryBody p := by
  intro c hc m hm b hb
  obtain rfl | hc := List.mem_cons.1 hc
  · obtain rfl := List.mem_singleton.1 hm
    cases hb
  · obtain rfl := List.mem_singleton.1 hc
    obtain rfl := List.mem_singleton.1 hm
    obtain rfl := Option.some.inj hb
    exact h

/-- The code for an activity with one listener. -/
theorem inject_code_scene :
    ∃ s' b' code, scene.inject lifecycle registry = (.ok (.injected report), s') ∧
      s'.body creation = .ok b' ∧ code.stmts.length = 5 ∧
      InjectionCode scene registry lifecycle body "this".toList "$r0".toList true code := by
  have hl : scene.lifecycle registry (.ok .empty) creationSignature = .ok lifecycle := rfl
  have h : scene.inject lifecycle registry =
      (.ok (.injected report), (scene.inject lifecycle registry).2) := rfl
  obtain ⟨b, b', pre, anchor, stmt, post, this, code, hb, hb', -, -, -, hthis, hcode, -, -, -, -, -,
    hinserted⟩ := Scene.inject_code hl h
  obtain rfl : body = b := Except.ok.inj hb
  obtain rfl : (⟨"this".toList, .ref creation.cls⟩ : Local) = this := Option.some.inj hthis
  exact ⟨_, b', code, h, hb', hinserted.symm, hcode⟩

end SampleActivity

end Weaver
