import Weaver.Proofs.Pass.InjectedCode

/-!
# Injection Is Atomic

Discovery, the click handlers, the search for the return and for the receiver, and the
insertion itself can fail one after the other, each with part of the work done. None of
this shows in the scene: it is either what it was, or one body of it has grown.

## Main results

* `Scene.insertLifecycleCalls_eq_skipped_iff`: when an injection is **skipped**.
* `Scene.insertLifecycleCalls_atomic`: **all or nothing**, and the frame of all.
-/

namespace Weaver

/-- The body `b'` is `b` grown by `count` statements, in one piece **directly before its last
return without a value**. What was there keeps its handles and its order, and the locals of
`b` come first. -/
def Body.GrownBy (b : Body) (count : Nat) (b' : Body) : Prop :=
  b'.method = b.method ∧ b.locals <+: b'.locals ∧
  ∃ pre anchor post block,
    b.stmts = pre ++ (anchor, .ret none) :: post ∧ (∀ e ∈ post, e.2.isVoidReturn = false) ∧
    block.length = count ∧ b'.stmts = pre ++ block ++ (anchor, .ret none) :: post

/-- With distinct handles, weaving in at the last return makes a body grow. -/
theorem Body.Woven.grownBy {b b' : Body} {pre post : List (StmtId × Stmt)} {anchor : StmtId}
    {stmt : Stmt} {code : Fragment} (h : b.Woven pre (anchor, stmt) post code b')
    (hnd : b.ids.Nodup) (hret : b.terminalReturn? = some anchor) :
    b.GrownBy code.stmts.length b' := by
  obtain ⟨hb, -, rfl⟩ := h
  obtain ⟨rfl, hpost⟩ := Body.eq_ret_of_terminalReturn? hnd hret hb
  exact ⟨rfl, List.prefix_append _ _, pre, anchor, post, numbered b.nextId code.stmts, hb, hpost,
    length_numbered _ _, rfl⟩

namespace Scene

/-! ### When an injection is skipped -/

/-- Discovery blames the layouts exactly if it comes to ask for the handlers. -/
theorem lifecycle_eq_layout_iff {s : Scene} {registry : ListenerRegistry}
    {source : HandlerSource} {sig : Signature} {fault : LayoutFault} :
    s.lifecycle registry source sig = .error (.layout fault) ↔
      (∃ m c, s.creationMethod sig = .ok m ∧ s.class? m.cls = some c) ∧
        source = .error fault := by
  cases hm : s.creationMethod sig with
  | error e =>
    have he : e = .noCreationMethod sig := by
      unfold creationMethod at hm
      split at hm
      · cases hm
      · split at hm <;> cases hm
        rfl
    simp [lifecycle, hm, he]
  | ok m =>
    cases hc : s.class? m.cls with
    | none => simp [lifecycle, hm, hc]
    | some c => cases source <;> simp [lifecycle, hm, hc]

/-- An injection is **skipped** exactly if a creation method was found on a class of the
scene and the handlers could not be told. -/
theorem insertLifecycleCalls_eq_skipped_iff (s : Scene) (registry : ListenerRegistry)
    (source : HandlerSource) (sig : Signature) (fault : LayoutFault) :
    (s.insertLifecycleCalls registry source sig).1 = .ok (.skipped fault) ↔
      (∃ m c, s.creationMethod sig = .ok m ∧ s.class? m.cls = some c) ∧
        source = .error fault := by
  rw [← @lifecycle_eq_layout_iff s registry]
  cases hl : s.lifecycle registry source sig with
  | error e => cases e <;> simp [insertLifecycleCalls, hl]
  | ok lifecycle =>
    rw [insertLifecycleCalls, hl]
    obtain h | ⟨e, h⟩ | ⟨b, b', report, -, -, h⟩ := s.inject_cases lifecycle registry <;> simp [h]

/-! ### All or nothing -/

/-- **All or nothing.** An injection that does not report success leaves the scene as it
was. One that does has made the body of the creation method grow by the statements it
counts, and nothing else is different. -/
theorem insertLifecycleCalls_atomic {s s' : Scene} {registry : ListenerRegistry}
    {source : HandlerSource} {sig : Signature} {outcome : Except Error InjectionOutcome}
    (hids : s.EveryBody fun b => b.ids.Nodup)
    (h : s.insertLifecycleCalls registry source sig = (outcome, s')) :
    (∀ fault, outcome = .ok (.skipped fault) ↔
      (∃ m c, s.creationMethod sig = .ok m ∧ s.class? m.cls = some c) ∧ source = .error fault) ∧
    match outcome with
    | .ok (.injected report) =>
      ∃ m b b', s.creationMethod sig = .ok m ∧ s.body m = .ok b ∧ s.DiffersInBody s' m b b' ∧
        b.GrownBy report.inserted b'
    | _ => s' = s := by
  have hskipped := s.insertLifecycleCalls_eq_skipped_iff registry source sig
  rw [h] at hskipped
  refine ⟨hskipped, ?_⟩
  -- Without a lifecycle nothing is touched; with one, the injection alone decides.
  cases hl : s.lifecycle registry source sig with
  | error e =>
    cases e <;> simp only [insertLifecycleCalls, hl, Prod.mk.injEq] at h <;>
      obtain ⟨rfl, rfl⟩ := h <;> rfl
  | ok lifecycle =>
    simp only [insertLifecycleCalls, hl] at h
    obtain hr | ⟨e, hr⟩ | ⟨b, b', report, hb, hcalls, hr⟩ := s.inject_cases lifecycle registry
    · rw [hr, Prod.mk.injEq] at h
      obtain ⟨rfl, rfl⟩ := h
      rfl
    · rw [hr, Prod.mk.injEq] at h
      obtain ⟨rfl, rfl⟩ := h
      rfl
    · rw [hr, Prod.mk.injEq] at h
      obtain ⟨rfl, rfl⟩ := h
      obtain ⟨pre, anchor, stmt, post, this, code, hret, -, -, -, hwoven, -, -, -, hcount⟩ :=
        Body.injectCalls_eq_ok (ref_of_mem_listenerFields hl) hcalls
      refine ⟨lifecycle.creation, b, b', (lifecycle_eq_ok hl).1, hb,
        setBody_differsInBody hb b', ?_⟩
      rw [hcount]
      exact hwoven.grownBy (hids.of_body hb) hret

end Scene

/-- The activity with one listener gets five statements, and nothing else changes. -/
theorem SampleActivity.insertLifecycleCalls_atomic_scene :
    ∃ s' b', scene.insertLifecycleCalls registry (.ok .empty) creationSignature =
        (.ok (.injected report), s') ∧
      scene.DiffersInBody s' creation body b' ∧ body.GrownBy 5 b' := by
  have hids : scene.EveryBody fun b => b.ids.Nodup := everyBody_scene (by decide)
  have h : scene.insertLifecycleCalls registry (.ok .empty) creationSignature =
      (.ok (.injected report),
        (scene.insertLifecycleCalls registry (.ok .empty) creationSignature).2) := rfl
  obtain ⟨-, m, b, b', hm, hb, hframe, hgrown⟩ := Scene.insertLifecycleCalls_atomic hids h
  obtain rfl : creation = m := Except.ok.inj hm
  obtain rfl : body = b := Except.ok.inj hb
  exact ⟨_, b', h, hframe, hgrown⟩

end Weaver
