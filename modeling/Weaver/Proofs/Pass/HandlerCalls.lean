import Weaver.Proofs.Pass.InjectedCode

/-!
# Calls of Click Handlers

Discovery keeps every click handler that the class of the creation method declares, whatever its
modifiers are, and passes on no more than its signature. So the builder of the calls does not see
whether a handler belongs to the class or to its objects. It does see this of the fields that hold
listeners, and loads them accordingly.

## Main definitions

* `Call.Fits`: the form of a call agrees with the declaration of the method.
* `CallSite.CallsHandler`: the code of a call, together with the method that it calls.

## Main results

* `CallSite.HandlerCode.exists_call`: a handler is called virtually on the receiver, so that the
  call **fits exactly if the method is not static**.
* `Scene.handler_calls_fit_iff`: the same for everything that an injection adds.
* `SampleHandlers.static_handler_called_on_receiver`: a static handler is called on the receiver.
-/

namespace Weaver

/-! ### Calls and declarations -/

/-- **The call fits the method**: a static method is called statically and without a receiver, and
any other one virtually on the local `this`. -/
def Call.Fits (e : Invocation) (this : Text) (m : Method) : Prop :=
  if m.isStatic then e.kind = .static ∧ e.base = none else e.kind = .virtual ∧ e.base = some this

/-- A virtual call on the receiver fits every method **that is not static**. -/
theorem Call.fits_virtual_iff {this : Text} {ref : MethodRef} {args : List Value} {m : Method} :
    Call.Fits ⟨.virtual, some this, ref, args⟩ this m ↔ m.isStatic = false := by
  cases h : m.isStatic <;> simp [Fits, h]

/-- A handler that is found is declared by the class. -/
theorem Class.exists_method_of_mem_declaredHandlers {c : Class} {handlers : SignatureSet}
    {sig : Signature} (h : sig ∈ c.declaredHandlers handlers) : ∃ m, c.method? sig = some m := by
  rw [declaredHandlers, List.mem_filter] at h
  exact Option.isSome_iff_exists.1 h.2

/-- Pieces may be described in another way, given that they are pieces for elements of the list. -/
theorem Fragment.Concat.imp_of_mem {α : Type} {piece piece' : α → Fragment → Prop} {xs : List α}
    {code : Fragment} (h : Fragment.Concat piece xs code)
    (himp : ∀ x ∈ xs, ∀ f, piece x f → piece' x f) : Fragment.Concat piece' xs code := by
  induction h with
  | nil => exact .nil
  | cons hf _ ih =>
    exact .cons (himp _ List.mem_cons_self _ hf)
      (ih fun x hx => himp x (List.mem_cons_of_mem _ hx))

namespace CallSite

variable {site : CallSite} {c : Class} {sig : Signature} {code : Fragment}

/-- The code of the call `e` of a handler that the class declares as the method `m`: what computes
its arguments, **directly followed** by the call, which is a virtual one on the receiver. -/
def CallsHandler (site : CallSite) (c : Class) (sig : Signature) (m : Method) (e : Invocation)
    (code : Fragment) : Prop :=
  c.method? sig = some m ∧ e.kind = .virtual ∧ e.base = some site.this ∧ e.method = c.refTo sig ∧
    ∃ g, site.ArgumentsCode sig.params e.args g ∧ code = g ++ .ofStmt (.invoke e)

/-- **The call of a handler** fits the method that the class declares exactly if this method is not
static. -/
theorem HandlerCode.exists_call (h : site.HandlerCode c.name sig code) {m : Method}
    (hm : c.method? sig = some m) :
    ∃ e, site.CallsHandler c sig m e code ∧ (e.Fits site.this m ↔ m.isStatic = false) := by
  obtain ⟨args, g, hargs, hcode⟩ := h
  exact ⟨_, ⟨hm, rfl, rfl, rfl, g, hargs, hcode⟩, Call.fits_virtual_iff⟩

end CallSite

/-! ### The calls of an injection -/

namespace Scene

/-- **The calls of handlers fit exactly the methods that are not static.** Whatever discovery
returns, an injection that reports success weaves the context, the listeners and the handlers into
the creation method. A listener is loaded from a static field or from a field of the receiver, as it
is declared. A handler is called virtually on the receiver, as what the class declares under its
signature, and the call fits this method if and only if it is not static. -/
theorem handler_calls_fit_iff {s s' : Scene} {registry : ListenerRegistry} {source : HandlerSource}
    {sig : Signature} {lifecycle : Lifecycle} {report : InjectionReport}
    (hl : s.lifecycle registry source sig = .ok lifecycle)
    (h : s.inject lifecycle registry = (.ok (.injected report), s')) :
    ∃ c b b' pre cut post this provided listeners handlers,
      s.class? lifecycle.cls = some c ∧
      s.body lifecycle.creation = .ok b ∧ s'.body lifecycle.creation = .ok b' ∧
      b.thisLocal? = some this ∧
      b.Woven pre cut post (provided ++ listeners ++ handlers) b' ∧
      ContextCode b this.name report.contextLocal report.generatedContext provided ∧
      Fragment.Concat (CallSite.ListenerCode ⟨s, this.name, report.contextLocal⟩ c.name registry)
        lifecycle.listenerFields listeners ∧
      Fragment.Concat (fun sig code => ∃ m e,
          CallSite.CallsHandler ⟨s, this.name, report.contextLocal⟩ c sig m e code ∧
          (e.Fits this.name m ↔ m.isStatic = false))
        lifecycle.handlers handlers := by
  obtain ⟨-, c, found, hc, -, -, hfound⟩ := lifecycle_eq_ok hl
  obtain ⟨b, b', hb, hcalls, rfl⟩ := inject_eq_injected h
  obtain ⟨pre, anchor, stmt, post, this, code, -, -, hthis, hcode, hwoven, -⟩ :=
    Body.injectCalls_eq_ok (ref_of_mem_listenerFields hl) hcalls
  obtain ⟨provided, listeners, handlers, hprovided, hlisteners, hhandlers, rfl⟩ := hcode
  rw [← name_of_class? hc] at hlisteners hhandlers
  refine ⟨c, b, b', pre, (anchor, stmt), post, this, provided, listeners, handlers, hc, hb,
    (setBody_differsInBody hb b').body_eq, hthis, hwoven, hprovided, hlisteners, ?_⟩
  refine hhandlers.imp_of_mem fun sig hsig code hcode => ?_
  rw [hfound] at hsig
  obtain ⟨m, hm⟩ := Class.exists_method_of_mem_declaredHandlers hsig
  exact ⟨m, hcode.exists_call hm⟩

end Scene

/-! ### An activity with a static handler -/

namespace SampleHandlers

/-- A handler that layouts name. -/
def onGo : Signature :=
  { ret := .void, name := "onGo".toList, params := [.class_ "android.view.View".toList] }

/-- Another one. -/
def onStop : Signature :=
  { onGo with name := "onStop".toList }

/-- The creation method. -/
def creation : MethodRef :=
  { cls := ⟨"a.Main".toList⟩, sig := creationSignature }

/-- The body of the creation method. -/
def body : Body :=
  { method := creation, locals := [⟨"this".toList, .ref creation.cls⟩]
    stmts := [(⟨0⟩, .identity "this".toList (.this (.ref creation.cls))), (⟨1⟩, .ret none)]
    nextId := 2 }

/-- The static handler. -/
def stopMethod : Method :=
  { sig := onStop, modifiers := [.pub, .static], throws := [], body := none }

/-- The activity declares one handler for its objects and one for itself. -/
def activity : Class :=
  { name := creation.cls, modifiers := [], isInterface := false, superclass := none
    interfaces := [], fields := []
    methods := [{ sig := creationSignature, modifiers := [], throws := [], body := some body },
      { sig := onGo, modifiers := [.pub], throws := [], body := none }, stopMethod] }

/-- The scene. -/
def scene : Scene :=
  { classes := [activity], entryPoints := [creation], ordered := by simp [Increasing] }

/-- What discovery finds. -/
def lifecycle : Lifecycle :=
  { creation, listenerFields := [], handlers := [onGo, onStop] }

/-- What the injection reports. -/
def report : InjectionReport :=
  { method := creation, fields := [], handlers := [onGo, onStop], contextLocal := "$r0".toList
    generatedContext := true, inserted := 3 }

/-- The creation method behind the injection. -/
def woven : Body :=
  { method := creation
    locals := [⟨"this".toList, .ref creation.cls⟩, ⟨"$r0".toList, .class_ contextClass⟩]
    stmts := [(⟨0⟩, .identity "this".toList (.this (.ref creation.cls))),
      (⟨2⟩, .assignVar "$r0".toList (Body.contextCall "this".toList)),
      (⟨3⟩, .invoke ⟨.virtual, some "this".toList, activity.refTo onGo, [.const .null]⟩),
      (⟨4⟩, .invoke ⟨.virtual, some "this".toList, activity.refTo onStop, [.const .null]⟩),
      (⟨1⟩, .ret none)]
    nextId := 5 }

/-- What discovery finds in the scene. -/
theorem lifecycle_scene :
    scene.lifecycle ⟨[]⟩ (.ok (.ofList [onGo, onStop])) creationSignature = .ok lifecycle :=
  rfl

/-- What the injection leaves of the scene. -/
theorem inject_scene :
    scene.inject lifecycle ⟨[]⟩ = (.ok (.injected report), scene.setBody creation woven) :=
  rfl

/-- The calls of the two handlers of the activity fit exactly if these are not static. -/
theorem handler_calls_fit_iff_scene :
    ∃ b' pre cut post provided handlers,
      (scene.setBody creation woven).body creation = .ok b' ∧
      body.Woven pre cut post (provided ++ .empty ++ handlers) b' ∧
      Fragment.Concat (fun sig code => ∃ m e,
          CallSite.CallsHandler ⟨scene, "this".toList, "$r0".toList⟩ activity sig m e code ∧
          (e.Fits "this".toList m ↔ m.isStatic = false))
        [onGo, onStop] handlers := by
  obtain ⟨c, b, b', pre, cut, post, this, provided, listeners, handlers, hc, hb, hb', hthis, hwoven,
    -, hlisteners, hhandlers⟩ := Scene.handler_calls_fit_iff lifecycle_scene inject_scene
  obtain rfl : activity = c := Option.some.inj hc
  obtain rfl : body = b := Except.ok.inj hb
  obtain rfl : (⟨"this".toList, .ref creation.cls⟩ : Local) = this := Option.some.inj hthis
  cases hlisteners
  exact ⟨b', pre, cut, post, provided, handlers, hb', hwoven, hhandlers⟩

/-- **A static handler is called on the receiver**: discovery finds it, the injection reports
success, and no call of it fits its declaration. -/
theorem static_handler_called_on_receiver :
    scene.lifecycle ⟨[]⟩ (.ok (.ofList [onGo, onStop])) creationSignature = .ok lifecycle ∧
    onStop ∈ lifecycle.handlers ∧
    activity.method? onStop = some stopMethod ∧ stopMethod.isStatic = true ∧
    ∃ s' b', scene.inject lifecycle ⟨[]⟩ = (.ok (.injected report), s') ∧
      s'.body creation = .ok b' ∧
      (∃ e, .invoke e ∈ b'.statements ∧ e.method = activity.refTo onStop) ∧
      ∀ e, .invoke e ∈ b'.statements → e.method = activity.refTo onStop →
        ¬e.Fits "this".toList stopMethod := by
  have hvirtual : ∀ e, Stmt.invoke e ∈ woven.statements → e.kind = .virtual := by
    intro e he
    simp only [woven, Body.statements, List.map_cons, List.map_nil, List.mem_cons, reduceCtorEq,
      Stmt.assignVar, Stmt.invoke.injEq, List.not_mem_nil, or_false, false_or] at he
    obtain rfl | rfl := he <;> rfl
  have hstatic : stopMethod.isStatic = true := rfl
  refine ⟨lifecycle_scene, by decide, rfl, hstatic, _, woven, inject_scene, rfl, ?_, ?_⟩
  · refine ⟨⟨.virtual, some "this".toList, activity.refTo onStop, [.const .null]⟩, ?_, rfl⟩
    simp [woven, Body.statements]
  · rintro e he - hfits
    have hkind := hvirtual e he
    rw [Call.Fits, if_pos hstatic, hkind] at hfits
    cases hfits.1

end SampleHandlers

end Weaver
