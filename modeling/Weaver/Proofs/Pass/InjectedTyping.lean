import Weaver.Proofs.Jimple.Scope
import Weaver.Proofs.Pass.InjectedCode

/-!
# Injected Code Is Well Scoped and Well Typed

The code of an injection reads locals only behind their assignment, gives every parameter
an argument of its type, and builds objects only by constructors that their classes
declare. The argument follows the grammar of injected code (`Weaver.InjectionCode`): one
invariant, `Fragment.WellFormed`, holds of the smallest fragments and is kept when
fragments are put one behind the other.

## Main results

* `Fragment.WellFormed.append`: **the invariant composes**.
* `CallSite.ArgumentCode.wellFormed`, `CallSite.CallCode.wellFormed`,
  `CallSite.ListenerCode.wellFormed`: one case for each form of code.
* `Scene.inject_wellFormed`: injected code is well scoped and well typed.
-/

namespace Weaver

/-! ### Passing values -/

/-- A value is **passed** for a parameter of its own type, an `int` also for the smaller
integer types, and `null` for classes and arrays. -/
def Body.Passes (b : Body) (v : Value) (ty : Ty) : Prop :=
  v.ty? b = some ty ∨
  v.ty? b = some .int ∧ ty ∈ [.boolean, .byte, .char, .short, .int] ∨
  v.ty? b = some .null ∧ ((∃ cls, ty = .ref cls) ∨ ∃ elem, ty = .array elem)

/-- The default value of a primitive type is passed for it. -/
theorem Body.passes_default {b : Body} {ty : Ty} (h : ty.isPrimitive = true) :
    b.Passes (.const (.default ty)) ty := by
  cases ty with
  | long | float | double => exact .inl rfl
  | boolean | byte | char | short | int => exact .inr (.inl ⟨rfl, by simp⟩)
  | void | null | ref | array => cases h

/-! ### Building objects -/

/-- Every allocation into a local is **directly followed** by the call of a constructor on
this local that the class declares; the class is neither an interface nor abstract. -/
def BuildsObjects (s : Scene) (ss : List Stmt) : Prop :=
  ∀ before x cls after, ss = before ++ .assignVar x (.alloc cls) :: after →
    ∃ c ctor args rest, after = .invoke ⟨.special, some x, ⟨cls, ctor⟩, args⟩ :: rest ∧
      ctor.isConstructor = true ∧ s.class? cls = some c ∧ c.declares ctor = true ∧
      c.isInterface = false ∧ Modifier.abstract ∉ c.modifiers

/-- Code that builds its objects can be put together. -/
theorem BuildsObjects.append {s : Scene} {ss ts : List Stmt} (hs : BuildsObjects s ss)
    (ht : BuildsObjects s ts) : BuildsObjects s (ss ++ ts) := by
  intro before x cls after h
  obtain ⟨rest, hbefore, hts⟩ | ⟨rest, hss, hafter⟩ := List.append_eq_append_iff.1 h
  · exact ht rest x cls after hts
  · cases rest with
    | nil => exact ht [] x cls after hafter.symm
    | cons u rest =>
      obtain ⟨rfl, rfl⟩ := List.cons.inj hafter
      obtain ⟨c, ctor, args, rest', rfl, hc⟩ := hs before x cls rest hss
      exact ⟨c, ctor, args, rest' ++ ts, rfl, hc⟩

/-- A statement that is no allocation builds no object. -/
theorem BuildsObjects.single {s : Scene} {t : Stmt}
    (h : ∀ x cls, t ≠ .assignVar x (.alloc cls)) : BuildsObjects s [t] := by
  intro before x cls after heq
  cases before with
  | nil => exact absurd (List.cons.inj heq).1 (h x cls)
  | cons u before => simp at heq

/-! ### The invariant -/

/-- **The invariant of injected code**, with respect to the body `b` that it ends up in and
the locals `known` in front of it. -/
structure Fragment.WellFormed (s : Scene) (b : Body) (known : List Text) (f : Fragment) :
    Prop where
  /-- Locals are read behind their assignment. -/
  defined : DefinedBeforeUse known f.stmts
  /-- The new locals are assigned once each, in the order of declaration. -/
  assigned : f.stmts.filterMap Stmt.assigned? = f.locals.map Local.name
  /-- Calls pass one argument of the right type for each parameter. -/
  passes : ∀ t ∈ f.stmts, ∀ e, t.invocation? = some e →
    List.Forall₂ b.Passes e.args e.method.sig.params
  objects : BuildsObjects s f.stmts

namespace Fragment.WellFormed

variable {s : Scene} {b : Body} {known known' : List Text} {f g : Fragment}

/-- The empty fragment is well formed. -/
theorem empty : Fragment.empty.WellFormed s b known where
  defined := trivial
  assigned := rfl
  passes := by simp [Fragment.empty]
  objects := by
    intro before x cls after h
    simp [Fragment.empty] at h

/-- Code stays well formed if more locals are known in front of it. -/
theorem mono (h : f.WellFormed s b known) (hsub : known ⊆ known') : f.WellFormed s b known' :=
  { h with defined := h.defined.mono hsub }

/-- **The invariant composes**: the locals of the first fragment are known to the second. -/
theorem append (hf : f.WellFormed s b known)
    (hg : g.WellFormed s b (known ++ f.locals.map Local.name)) :
    (f ++ g).WellFormed s b known where
  defined := hf.defined.append (by rw [hf.assigned]; exact hg.defined)
  assigned := by
    rw [stmts_append, List.filterMap_append, hf.assigned, hg.assigned, locals_append,
      List.map_append]
  passes := by
    intro t ht e he
    obtain ht | ht := List.mem_append.1 ht
    · exact hf.passes t ht e he
    · exact hg.passes t ht e he
  objects := hf.objects.append hg.objects

/-- A call on its own. -/
theorem ofInvoke {e : Invocation} (hused : ∀ x ∈ e.mentioned, x ∈ known)
    (hargs : List.Forall₂ b.Passes e.args e.method.sig.params) :
    (Fragment.ofStmt (.invoke e)).WellFormed s b known where
  defined := ⟨hused, trivial⟩
  assigned := rfl
  passes := by
    intro t ht e' he
    obtain rfl := List.mem_singleton.1 ht
    obtain rfl := Option.some.inj he
    exact hargs
  objects := .single fun _ _ => Stmt.noConfusion

/-- The assignment of a new local to something that is no new object. -/
theorem ofAssign {l : Local} {v : Value} (hused : ∀ x ∈ v.mentioned, x ∈ known)
    (halloc : ∀ cls, v ≠ .alloc cls)
    (hargs : ∀ e, v = .call e → List.Forall₂ b.Passes e.args e.method.sig.params) :
    Fragment.WellFormed s b known ⟨[l], [.assignVar l.name v]⟩ where
  defined := ⟨hused, trivial⟩
  assigned := rfl
  passes := by
    intro t ht e he
    obtain rfl := List.mem_singleton.1 ht
    cases v with
    | call e' =>
      obtain rfl := Option.some.inj he
      exact hargs e' rfl
    | _ => cases he
  objects := .single fun _ cls h => halloc cls (Stmt.assign.inj h).2

/-- The pieces of a concatenation satisfy the invariant if their locals are those that the
body has. -/
theorem concat {α : Type} {piece : α → Fragment → Prop} {xs : List α}
    (hf : Fragment.Concat piece xs f) (hlocals : ∀ l ∈ f.locals, b.local? l.name = some l)
    (hpiece : ∀ x ∈ xs, ∀ g, piece x g → (∀ l ∈ g.locals, b.local? l.name = some l) →
      g.WellFormed s b known) :
    f.WellFormed s b known := by
  induction hf with
  | nil => exact empty
  | cons hx _ ih =>
    rename_i x xs f g _
    refine append (hpiece x List.mem_cons_self f hx fun l hl => ?_) (mono (ih ?_ ?_) ?_)
    · exact hlocals l (List.mem_append_left _ hl)
    · exact fun l hl => hlocals l (List.mem_append_right _ hl)
    · exact fun y hy => hpiece y (List.mem_cons_of_mem _ hy)
    · exact List.subset_append_left _ _

end Fragment.WellFormed

/-! ### One case for each form of code -/

namespace CallSite

/-- What the calls of an injection rely on: the locals they share are known, and the
context has its type. -/
structure Known (site : CallSite) (b : Body) (known : List Text) : Prop where
  this : site.this ∈ known
  context : site.context ∈ known
  typed : b.local? site.context = some ⟨site.context, .class_ contextClass⟩

/-- What calls rely on is still known among more locals. -/
theorem Known.mono {site : CallSite} {b : Body} {known known' : List Text}
    (h : site.Known b known) (hsub : known ⊆ known') : site.Known b known' :=
  ⟨hsub h.this, hsub h.context, h.typed⟩

variable {site : CallSite} {b : Body} {known : List Text} {f : Fragment}

/-- The context is passed for a parameter of its type. -/
theorem Known.passes_context (h : site.Known b known) :
    b.Passes (.var site.context) (.class_ contextClass) :=
  .inl (by rw [Value.ty?, h.typed, Option.map_some])

/-- The arguments of a constructor fit its parameters. -/
theorem Constructible.passes {cls : ClassName} {ctor : Signature} {args : List Value}
    (h : site.Constructible cls ctor args) (hknown : site.Known b known) :
    List.Forall₂ b.Passes args ctor.params ∧ ctor.isConstructor = true ∧
      ∀ v ∈ args, ∀ x ∈ v.mentioned, x ∈ known := by
  obtain ⟨c, -, -, -, -, ⟨rfl, rfl⟩ | ⟨-, rfl, rfl⟩⟩ := h
  · refine ⟨.cons hknown.passes_context .nil, rfl, fun v hv x hx => ?_⟩
    obtain rfl := List.mem_singleton.1 hv
    obtain rfl := List.mem_singleton.1 hx
    exact hknown.context
  · exact ⟨.nil, rfl, by simp⟩

/-- The code that builds an object. -/
theorem Constructible.wellFormed {cls : ClassName} {ctor : Signature} {args : List Value}
    (h : site.Constructible cls ctor args) (hknown : site.Known b known) (name : Text) :
    Fragment.WellFormed site.scene b known ⟨[⟨name, .ref cls⟩],
      [.assignVar name (.alloc cls), .invoke ⟨.special, some name, ⟨cls, ctor⟩, args⟩]⟩ := by
  obtain ⟨hpasses, hname, hargs⟩ := h.passes hknown
  obtain ⟨c, hc, hint, habs, hdecl, -⟩ := h
  refine ⟨⟨by simp [Value.mentioned], fun x hx => ?_, trivial⟩, rfl, fun t ht e he => ?_, ?_⟩
  · rw [Stmt.used_invoke, Call.mentioned, List.mem_append, List.mem_flatMap] at hx
    obtain hx | ⟨v, hv, hx⟩ := hx
    · obtain rfl := Option.some.inj (Option.mem_toList.1 hx)
      simp
    · exact List.mem_append_left _ (hargs v hv x hx)
  · obtain rfl | ht := List.mem_cons.1 ht
    · cases he
    · obtain rfl := List.mem_singleton.1 ht
      obtain rfl := Option.some.inj he
      exact hpasses
  · intro before x cls' after heq
    cases before with
    | nil =>
      obtain ⟨hassign, rfl⟩ := List.cons.inj heq
      cases hassign
      exact ⟨c, ctor, args, [], rfl, hname, hc, hdecl, hint, habs⟩
    | cons s before =>
      cases before with
      | nil => simp [Stmt.assignVar] at heq
      | cons t before => simp at heq

/-- **An argument** fits its parameter, and its code is well formed. -/
theorem ArgumentCode.wellFormed {ty : Ty} {v : Value} (h : site.ArgumentCode ty v f)
    (hknown : site.Known b known) (hty : ty ≠ .void ∧ ty ≠ .null)
    (hlocals : ∀ l ∈ f.locals, b.local? l.name = some l) :
    f.WellFormed site.scene b known ∧ b.Passes v ty ∧
      ∀ x ∈ v.mentioned, x ∈ known ++ f.locals.map Local.name := by
  cases h with
  | primitive hprim => exact ⟨.empty, Body.passes_default hprim, by simp [Value.mentioned]⟩
  | string => exact ⟨.empty, .inl rfl, by simp [Value.mentioned]⟩
  | context =>
    refine ⟨.empty, hknown.passes_context, fun x hx => ?_⟩
    obtain rfl := List.mem_singleton.1 hx
    exact List.mem_append_left _ hknown.context
  | object name _ _ hctor =>
    refine ⟨hctor.wellFormed hknown name, .inl ?_, fun x hx => ?_⟩
    · rw [Value.ty?, hlocals _ List.mem_cons_self, Option.map_some]
    · obtain rfl := List.mem_singleton.1 hx
      simp
  | opaque_ hprim _ _ _ =>
    refine ⟨.empty, .inr (.inr ⟨rfl, ?_⟩), by simp [Value.mentioned]⟩
    cases ty with
    | ref cls => exact .inl ⟨cls, rfl⟩
    | array elem => exact .inr ⟨elem, rfl⟩
    | void => exact absurd rfl hty.1
    | null => exact absurd rfl hty.2
    | _ => cases hprim

/-- **Arguments** fit their parameters one by one. -/
theorem ArgumentsCode.wellFormed {tys : List Ty} {vs : List Value}
    (h : site.ArgumentsCode tys vs f) (hknown : site.Known b known)
    (htys : ∀ ty ∈ tys, ty ≠ .void ∧ ty ≠ .null)
    (hlocals : ∀ l ∈ f.locals, b.local? l.name = some l) :
    f.WellFormed site.scene b known ∧ List.Forall₂ b.Passes vs tys ∧
      ∀ v ∈ vs, ∀ x ∈ v.mentioned, x ∈ known ++ f.locals.map Local.name := by
  induction h generalizing known with
  | nil => exact ⟨.empty, .nil, by simp⟩
  | @cons ty tys v vs f g hv _ ih =>
    obtain ⟨hf, hpass, hused⟩ := hv.wellFormed hknown (htys ty List.mem_cons_self)
      fun l hl => hlocals l (List.mem_append_left _ hl)
    obtain ⟨hg, hpasses, hused'⟩ := ih (hknown.mono (List.subset_append_left _ _))
      (fun ty hty => htys ty (List.mem_cons_of_mem _ hty))
      fun l hl => hlocals l (List.mem_append_right _ hl)
    refine ⟨hf.append hg, .cons hpass hpasses, fun u hu x hx => ?_⟩
    rw [Fragment.locals_append, List.map_append, ← List.append_assoc]
    obtain rfl | hu := List.mem_cons.1 hu
    · exact List.mem_append_left _ (hused x hx)
    · exact hused' u hu x hx

/-- **A call** on a known local is well formed together with its arguments. -/
theorem CallCode.wellFormed {kind : CallKind} {base : Text} {m : MethodRef}
    (h : site.CallCode kind base m f) (hknown : site.Known b known) (hbase : base ∈ known)
    (htys : ∀ ty ∈ m.sig.params, ty ≠ .void ∧ ty ≠ .null)
    (hlocals : ∀ l ∈ f.locals, b.local? l.name = some l) :
    f.WellFormed site.scene b known := by
  obtain ⟨args, g, hg, rfl⟩ := h
  obtain ⟨hwf, hpasses, hused⟩ := hg.wellFormed hknown htys
    fun l hl => hlocals l (List.mem_append_left _ hl)
  refine hwf.append (.ofInvoke (fun x hx => ?_) hpasses)
  rw [Call.mentioned, List.mem_append, List.mem_flatMap] at hx
  obtain hx | ⟨v, hv, hx⟩ := hx
  · obtain rfl := Option.some.inj (Option.mem_toList.1 hx)
    exact List.mem_append_left _ hbase
  · exact hused v hv x hx

/-- **A listener** is loaded and called back well. -/
theorem ListenerCode.wellFormed {cls : ClassName} {registry : ListenerRegistry} {field : Field}
    (h : site.ListenerCode cls registry field f) (hknown : site.Known b known)
    (htys : ∀ interface, ∀ sig ∈ registry.callbacks interface, ∀ ty ∈ sig.params,
      ty ≠ .void ∧ ty ≠ .null)
    (hlocals : ∀ l ∈ f.locals, b.local? l.name = some l) :
    f.WellFormed site.scene b known := by
  obtain ⟨interface, name, calls, -, hcalls, rfl⟩ := h
  refine .append (.ofAssign (l := ⟨name, field.ty⟩) ?_ ?_ ?_) ?_
  · intro x hx
    split at hx
    · cases hx
    · obtain rfl := List.mem_singleton.1 hx
      exact hknown.this
  · intro cls' heq
    split at heq <;> cases heq
  · intro e heq
    split at heq <;> cases heq
  · refine .concat hcalls (fun l hl => hlocals l (List.mem_append_right _ hl)) ?_
    intro sig hsig g hg hlocals
    exact hg.wellFormed (hknown.mono (List.subset_append_left _ _))
      (List.mem_append_right _ List.mem_cons_self) (htys interface sig hsig) hlocals

end CallSite

/-! ### The whole block -/

/-- The code that provides the context is well formed, and the context is known behind
it. -/
theorem ContextCode.wellFormed {b b' : Body} {this context : Text} {generated : Bool}
    {code : Fragment} (h : ContextCode b this context generated code) (s : Scene)
    (hthis : this ∈ b.names) (hlocals : ∀ l ∈ b.locals ++ code.locals, b'.local? l.name = some l) :
    code.WellFormed s b' b.names ∧
      CallSite.Known ⟨s, this, context⟩ b' (b.names ++ code.locals.map Local.name) := by
  cases h with
  | @declared before after l hb hty _ =>
    have hl : l ∈ b.locals := by simp [hb]
    refine ⟨.empty, List.mem_append_left _ hthis,
      List.mem_append_left _ (List.mem_map_of_mem hl), ?_⟩
    rw [← hty]
    exact hlocals l (List.mem_append_left _ hl)
  | generated _ _ =>
    refine ⟨.ofAssign (l := ⟨context, .class_ contextClass⟩) ?_ ?_ ?_,
      List.mem_append_left _ hthis, List.mem_append_right _ List.mem_cons_self,
      hlocals _ (List.mem_append_right _ List.mem_cons_self)⟩
    · intro x hx
      rw [Value.mentioned_call] at hx
      obtain rfl := List.mem_singleton.1 hx
      exact hthis
    · exact fun _ => Value.noConfusion
    · rintro e ⟨⟩
      exact .nil

/-- **The whole block** is well formed. -/
theorem InjectionCode.wellFormed {s : Scene} {registry : ListenerRegistry}
    {lifecycle : Lifecycle} {b b' : Body} {this context : Text} {generated : Bool}
    {code : Fragment} (h : InjectionCode s registry lifecycle b this context generated code)
    (hthis : this ∈ b.names)
    (hcallbacks : ∀ interface, ∀ sig ∈ registry.callbacks interface, ∀ ty ∈ sig.params,
      ty ≠ .void ∧ ty ≠ .null)
    (hhandlers : ∀ sig ∈ lifecycle.handlers, ∀ ty ∈ sig.params, ty ≠ .void ∧ ty ≠ .null)
    (hlocals : ∀ l ∈ b.locals ++ code.locals, b'.local? l.name = some l) :
    code.WellFormed s b' b.names := by
  obtain ⟨provided, listeners, handlers, hprovided, hlisteners, hhandlersCode, rfl⟩ := h
  simp only [Fragment.locals_append, List.mem_append] at hlocals
  obtain ⟨hwf, hknown⟩ := hprovided.wellFormed s hthis fun l hl => by
    obtain hl | hl := List.mem_append.1 hl
    · exact hlocals l (.inl hl)
    · exact hlocals l (.inr (.inl (.inl hl)))
  refine .append (.append hwf ?_) ?_
  · refine .concat hlisteners (fun l hl => hlocals l (.inr (.inl (.inr hl)))) ?_
    intro field _ g hg hlocals
    exact hg.wellFormed hknown hcallbacks hlocals
  · refine .concat hhandlersCode (fun l hl => hlocals l (.inr (.inr hl))) ?_
    intro sig hsig g hg hlocals
    have hsub : b.names ++ provided.locals.map Local.name ⊆
        b.names ++ (provided ++ listeners).locals.map Local.name := by
      simp [List.append_subset]
    have hmore := hknown.mono hsub
    exact hg.wellFormed hmore hmore.this (hhandlers sig hsig) hlocals

/-- Callbacks stand in some entry of the registry. -/
theorem ListenerRegistry.exists_entry_of_mem_callbacks {r : ListenerRegistry}
    {interface : ClassName} {sig : Signature} (h : sig ∈ r.callbacks interface) :
    ∃ e ∈ r.entries, sig ∈ e.2 := by
  unfold callbacks at h
  split at h
  next name sigs hfind => exact ⟨(name, sigs), List.mem_of_find?_eq_some hfind, h⟩
  · cases h

/-- The local that stands for the receiver is declared. -/
theorem Body.thisLocal?_mem {b : Body} {l : Local} (h : b.thisLocal? = some l) :
    l.name ∈ b.names := by
  obtain ⟨stmt, -, hstmt⟩ := List.exists_of_findSome?_eq_some h
  have hmem : l ∈ b.locals := by
    split at hstmt
    · exact List.mem_of_find?_eq_some hstmt
    · cases hstmt
  exact List.mem_map_of_mem hmem

namespace Scene

/-- **Injected code is well scoped and well typed.** If no callback and no handler has a
parameter of type `void` or of the type of `null`, then the statements that a successful
injection puts into the creation method mention declared locals only, assign every new
local once and before it is read, pass fitting arguments for all parameters, and finish
every object by a constructor that its class declares. -/
theorem inject_wellFormed {s s' : Scene} {registry : ListenerRegistry} {source : HandlerSource}
    {sig : Signature} {lifecycle : Lifecycle} {report : InjectionReport}
    (hnames : s.EveryBody fun b => b.names.Nodup)
    (hcallbacks : ∀ e ∈ registry.entries, ∀ sig ∈ e.2, ∀ ty ∈ sig.params, ty ≠ .void ∧ ty ≠ .null)
    (hhandlers : ∀ sig ∈ lifecycle.handlers, ∀ ty ∈ sig.params, ty ≠ .void ∧ ty ≠ .null)
    (hl : s.lifecycle registry source sig = .ok lifecycle)
    (h : s.inject lifecycle registry = (.ok (.injected report), s')) :
    ∃ b b' pre cut post block added,
      s.body lifecycle.creation = .ok b ∧ s'.body lifecycle.creation = .ok b' ∧
      b.stmts = pre ++ cut :: post ∧
      b'.stmts = pre ++ Body.numbered b.nextId block ++ cut :: post ∧
      b'.locals = b.locals ++ added ∧ b'.names.Nodup ∧
      (∀ t ∈ block, ∀ x ∈ t.mentioned, b'.declares x = true) ∧
      (∀ l ∈ added, ∃ before t after, block = before ++ t :: after ∧
        t.assigned? = some l.name ∧ l.name ∉ t.used ∧
        (∀ u ∈ before, l.name ∉ u.mentioned) ∧ ∀ u ∈ after, u.assigned? ≠ some l.name) ∧
      (∀ t ∈ block, ∀ e, t.invocation? = some e →
        e.args.length = e.method.sig.params.length ∧
        List.Forall₂ b'.Passes e.args e.method.sig.params) ∧
      BuildsObjects s block := by
  obtain ⟨b, b', hb, hcalls, rfl⟩ := inject_eq_injected h
  obtain ⟨pre, anchor, stmt, post, this, code, -, -, hthis, hcode, hwoven, -⟩ :=
    Body.injectCalls_eq_ok (ref_of_mem_listenerFields hl) hcalls
  obtain ⟨hcut, hfresh, hb'⟩ := hwoven
  have hlocals : b'.locals = b.locals ++ code.locals := by rw [hb']
  have hallnames : b'.names = b.names ++ code.locals.map Local.name := by
    rw [Body.names, hlocals, List.map_append, Body.names]
  have hnd : b'.names.Nodup := by
    rw [hallnames, ← Body.names_withLocals]
    exact hfresh.nodup_names (hnames.of_body hb)
  -- The invariant holds of the specified program, and the block is this program.
  have hwf : code.WellFormed s b' b.names := by
    refine hcode.wellFormed (Body.thisLocal?_mem hthis) (fun interface sig hsig => ?_) hhandlers
      fun l hl => Body.local?_eq_some_of_mem hnd (hlocals ▸ hl)
    obtain ⟨e, he, hmem⟩ := ListenerRegistry.exists_entry_of_mem_callbacks hsig
    exact hcallbacks e he sig hmem
  have hall : b.names ++ code.stmts.filterMap Stmt.assigned? = b'.names := by
    rw [hwf.assigned, hallnames]
  refine ⟨b, b', pre, (anchor, stmt), post, code.stmts, code.locals, hb,
    (setBody_differsInBody hb b').body_eq, hcut, by rw [hb'], hlocals, hnd, ?_, ?_, ?_, hwf.objects⟩
  · intro t ht x hx
    rw [Body.declares_iff, ← hall]
    obtain hx | hx := List.mem_append.1 hx
    · exact List.mem_append_right _ (List.mem_filterMap.2 ⟨t, ht, Option.mem_toList.1 hx⟩)
    · exact hwf.defined.mem_of_mem_used ht hx
  · intro l hl
    refine hwf.defined.exists_split_of_nodup (hall ▸ hnd) ?_
    rw [hwf.assigned]
    exact List.mem_map_of_mem hl
  · intro t ht e he
    have hpasses := hwf.passes t ht e he
    exact ⟨hpasses.length_eq, hpasses⟩

end Scene

/-- The code for an activity with one listener is well formed. -/
theorem SampleActivity.inject_wellFormed_scene :
    ∃ s' b' block, scene.inject lifecycle registry = (.ok (.injected report), s') ∧
      s'.body creation = .ok b' ∧ (∀ t ∈ block, ∀ x ∈ t.mentioned, b'.declares x = true) ∧
      BuildsObjects scene block := by
  have hnames : scene.EveryBody fun b => b.names.Nodup := everyBody_scene (by decide)
  have hl : scene.lifecycle registry (.ok .empty) creationSignature = .ok lifecycle := rfl
  have h : scene.inject lifecycle registry =
      (.ok (.injected report), (scene.inject lifecycle registry).2) := rfl
  obtain ⟨b, b', pre, cut, post, block, added, -, hb', -, -, -, -, hdeclared, -, -, hobjects⟩ :=
    Scene.inject_wellFormed hnames (by decide) (by decide) hl h
  exact ⟨_, b', block, h, hb', hdeclared, hobjects⟩

end Weaver
