import Weaver.Pass.Lifecycle
import Weaver.Proofs.Jimple.Resolution

/-!
# Discovery Follows the Hierarchy

The creation method of a program is searched for in two stages: among the entry points, and then
among the methods that the first entry point calls. Which methods these are depends on what each
call finds along the superclasses of the class that it names, in a hierarchy without any promise.

## Main definitions

* `IsFirst`: the first method of a signature in a list.
* `Scene.Creation`: what the search for the creation method comes to, case by case.

## Main results

* `Scene.creationMethod_eq_iff`: the search comes to **exactly one of these cases**.
* `Scene.discovery_follows_hierarchy`: **discovery follows the hierarchy**, from the declaration
  that a call finds to the creation method.
-/

namespace Weaver

/-- **The first method of a signature** in a list. -/
def IsFirst (sig : Signature) (ms : List MethodRef) (m : MethodRef) : Prop :=
  ∃ pre post, ms = pre ++ m :: post ∧ m.sig = sig ∧ ∀ m' ∈ pre, m'.sig ≠ sig

/-- What is found is the first method of the signature. -/
theorem find?_eq_some_iff_isFirst {sig : Signature} {ms : List MethodRef} {m : MethodRef} :
    ms.find? (fun m => m.sig == sig) = some m ↔ IsFirst sig ms m := by
  rw [List.find?_eq_some_iff_append, IsFirst]
  simp only [beq_iff_eq, ne_eq, Bool.not_eq_true', beq_eq_false_iff_ne]
  constructor
  · rintro ⟨hsig, pre, post, hms, hpre⟩
    exact ⟨pre, post, hms, hsig, hpre⟩
  · rintro ⟨pre, post, hms, hsig, hpre⟩
    exact ⟨hsig, pre, post, hms, hpre⟩

/-- Nothing is found exactly if no method has the signature. -/
theorem find?_eq_none_iff_sig_ne {sig : Signature} {ms : List MethodRef} :
    ms.find? (fun m => m.sig == sig) = none ↔ ∀ m ∈ ms, m.sig ≠ sig := by
  simp

namespace Scene

variable {s : Scene}

/-! ### The two stages of the search -/

/-- **The search for the creation method**, case by case: the first entry point of the signature;
the first such method that the first entry point calls if no entry point has the signature; and
otherwise the error that names the signature, whether the first entry point calls no such method,
is unknown or without a body, or there is no entry point. -/
inductive Creation (s : Scene) (sig : Signature) : Except Error MethodRef → Prop
  | entryPoint {m : MethodRef} (hm : IsFirst sig s.entryPoints m) : Creation s sig (.ok m)
  | callee {first m : MethodRef} {rest callees : List MethodRef} {b : Body}
      (hnone : ∀ m ∈ s.entryPoints, m.sig ≠ sig) (hfirst : s.entryPoints = first :: rest)
      (hbody : s.body first = .ok b) (hcallees : s.IsCallees b callees)
      (hm : IsFirst sig callees m) : Creation s sig (.ok m)
  | noCallee {first : MethodRef} {rest callees : List MethodRef} {b : Body}
      (hnone : ∀ m ∈ s.entryPoints, m.sig ≠ sig) (hfirst : s.entryPoints = first :: rest)
      (hbody : s.body first = .ok b) (hcallees : s.IsCallees b callees)
      (hmissing : ∀ m ∈ callees, m.sig ≠ sig) : Creation s sig (.error (.noCreationMethod sig))
  | noBody {first : MethodRef} {rest : List MethodRef} {fault : Fault}
      (hnone : ∀ m ∈ s.entryPoints, m.sig ≠ sig) (hfirst : s.entryPoints = first :: rest)
      (hbody : s.body first = .error fault) : Creation s sig (.error (.noCreationMethod sig))
  | noEntryPoint (hnone : s.entryPoints = []) : Creation s sig (.error (.noCreationMethod sig))

/-- A method without a body gives its fault in the place of its callees. -/
theorem calleesOf_of_body_eq_error {m : MethodRef} {fault : Fault}
    (h : s.body m = .error fault) : s.calleesOf m = .error fault := by
  rw [calleesOf, h, Except.map]

/-- Without an entry point of the signature, the search goes on with the callees of the first. -/
theorem creationMethod_of_forall_ne {sig : Signature} (hnone : ∀ m ∈ s.entryPoints, m.sig ≠ sig) :
    s.creationMethod sig =
      (s.firstCallees.find? fun m => m.sig == sig).elim (.error (.noCreationMethod sig)) .ok := by
  simp only [creationMethod, find?_eq_none_iff_sig_ne.2 hnone]
  cases s.firstCallees.find? fun m => m.sig == sig <;> rfl

/-- The second stage looks at the methods that the first entry point calls. -/
theorem firstCallees_of_isCallees {first : MethodRef} {rest callees : List MethodRef} {b : Body}
    (hfirst : s.entryPoints = first :: rest) (hbody : s.body first = .ok b)
    (hcallees : s.IsCallees b callees) : s.firstCallees = callees := by
  simp only [firstCallees, hfirst, calleesOf_eq_ok_iff.2 ⟨b, hbody, hcallees⟩]

/-- Without a body the first entry point calls nothing. -/
theorem firstCallees_of_body_eq_error {first : MethodRef} {rest : List MethodRef} {fault : Fault}
    (hfirst : s.entryPoints = first :: rest) (hbody : s.body first = .error fault) :
    s.firstCallees = [] := by
  simp only [firstCallees, hfirst, calleesOf_of_body_eq_error hbody]

/-- The search comes to one of its cases. -/
theorem creation_creationMethod (s : Scene) (sig : Signature) :
    s.Creation sig (s.creationMethod sig) := by
  cases hentry : s.entryPoints.find? fun m => m.sig == sig with
  | some m =>
    rw [creationMethod, hentry]
    exact .entryPoint (find?_eq_some_iff_isFirst.1 hentry)
  | none =>
    have hnone := find?_eq_none_iff_sig_ne.1 hentry
    rw [creationMethod_of_forall_ne hnone]
    cases hfirst : s.entryPoints with
    | nil =>
      rw [firstCallees, hfirst, List.find?_nil, Option.elim_none]
      exact .noEntryPoint hfirst
    | cons first rest =>
      cases hbody : s.body first with
      | error fault =>
        rw [firstCallees_of_body_eq_error hfirst hbody, List.find?_nil, Option.elim_none]
        exact .noBody hnone hfirst hbody
      | ok b =>
        obtain ⟨callees, hcallees⟩ : ∃ callees, s.IsCallees b callees := ⟨_, s.isCallees_foldl b⟩
        rw [firstCallees_of_isCallees hfirst hbody hcallees]
        cases hm : callees.find? fun m => m.sig == sig with
        | some m => exact .callee hnone hfirst hbody hcallees (find?_eq_some_iff_isFirst.1 hm)
        | none => exact .noCallee hnone hfirst hbody hcallees (find?_eq_none_iff_sig_ne.1 hm)

/-- **The search for the creation method** comes to exactly what its cases say. -/
theorem creationMethod_eq_iff {sig : Signature} {result : Except Error MethodRef} :
    s.creationMethod sig = result ↔ s.Creation sig result := by
  constructor
  · rintro rfl
    exact s.creation_creationMethod sig
  · intro h
    cases h with
    | entryPoint hm => rw [creationMethod, find?_eq_some_iff_isFirst.2 hm]
    | callee hnone hfirst hbody hcallees hm =>
      rw [creationMethod_of_forall_ne hnone, firstCallees_of_isCallees hfirst hbody hcallees,
        find?_eq_some_iff_isFirst.2 hm, Option.elim_some]
    | noCallee hnone hfirst hbody hcallees hmissing =>
      rw [creationMethod_of_forall_ne hnone, firstCallees_of_isCallees hfirst hbody hcallees,
        find?_eq_none_iff_sig_ne.2 hmissing, Option.elim_none]
    | noBody hnone hfirst hbody =>
      rw [creationMethod_of_forall_ne hnone, firstCallees_of_body_eq_error hfirst hbody,
        List.find?_nil, Option.elim_none]
    | noEntryPoint hnone =>
      rw [creationMethod_of_forall_ne (by simp [hnone]), firstCallees, hnone,
        List.find?_nil, Option.elim_none]

/-! ### Discovery -/

/-- **Discovery follows the hierarchy**, whatever the hierarchy is.

* A call finds the first class along the superclasses that declares the signature, and nothing only
  if no class along the superclasses declares it. The walk for it ends by itself: no greater bound
  on its length gives another one.
* The callees of a method with a body are exactly what the invocations of its statements find, each
  once and in the order of the first calls.
* The creation method is the first entry point of the signature, or else the first such callee of
  the first entry point, and its search fails exactly when there is neither. -/
theorem discovery_follows_hierarchy (s : Scene) :
    (∀ name sig c m, s.resolve? name sig = some (c, m) ↔ s.Nearest name sig c m) ∧
    (∀ name sig, s.resolve? name sig = none ↔
      ∀ n c, s.chain name n = some c → c.declares sig = false) ∧
    (∀ name bound, s.classes.length ≤ bound →
      s.ancestryFrom bound [] name = s.ancestry name) ∧
    (∀ m b, s.body m = .ok b →
      ∃ callees, s.calleesOf m = .ok callees ∧
        ∀ ms, s.IsCallees b ms ↔ ms = callees) ∧
    (∀ m fault, s.body m = .error fault → s.calleesOf m = .error fault) ∧
    ∀ sig result, s.creationMethod sig = result ↔ s.Creation sig result := by
  refine ⟨fun _ _ _ _ => resolve?_eq_some_iff, resolve?_eq_none_iff, fun name bound hbound => ?_,
    fun m b hbody => ?_, fun m fault => calleesOf_of_body_eq_error,
    fun sig result => creationMethod_eq_iff⟩
  · exact s.ancestryFrom_eq_of_le name hbound
  · have hcallees := s.isCallees_foldl b
    refine ⟨_, calleesOf_eq_ok_iff.2 ⟨b, hbody, hcallees⟩, fun ms =>
      ⟨fun h => h.unique hcallees, ?_⟩⟩
    rintro rfl
    exact hcallees

end Scene

/-! ### A program whose superclasses run in a cycle -/

namespace SampleProgram

/-- The method that the program starts with. -/
def main : MethodRef :=
  { cls := ⟨"a.Main".toList⟩, sig := { ret := .void, name := "main".toList, params := [] } }

/-- The signature of the method that it calls. -/
def create : Signature :=
  { ret := .int, name := "create".toList, params := [] }

/-- A call of that signature that names the class of the main method. -/
def call : Invocation :=
  { kind := .static, base := none, method := ⟨main.cls, create⟩, args := [] }

/-- The body calls twice, in both kinds of statements. -/
def mainBody : Body :=
  { method := main, locals := [⟨"r".toList, .int⟩]
    stmts := [(⟨0⟩, .invoke call), (⟨1⟩, .assign (.var "r".toList) (.call call))], nextId := 2 }

/-- The class of the main method, which does not declare what is called. -/
def mainClass : Class :=
  { name := main.cls, modifiers := [], isInterface := false, superclass := some ⟨"b.Base".toList⟩
    interfaces := [], fields := []
    methods := [{ sig := main.sig, modifiers := [.static], throws := [], body := some mainBody }] }

/-- What the calls find. -/
def created : Method :=
  { sig := create, modifiers := [.static, .native], throws := [], body := none }

/-- Its class, which extends the class of the main method in turn. -/
def base : Class :=
  { name := ⟨"b.Base".toList⟩, modifiers := [], isInterface := false, superclass := some main.cls
    interfaces := [], fields := [], methods := [created] }

/-- The program. -/
def scene : Scene :=
  { classes := [mainClass, base], entryPoints := [main]
    ordered := by
      rw [Increasing]
      decide }

/-- Both calls find the method of the superclass, which is the creation method of its signature. The
signature of activities is not found, although the superclasses never end. -/
theorem discovery_follows_hierarchy_scene :
    scene.resolve? main.cls create = some (base, created) ∧
    (∀ n c, scene.chain main.cls n = some c → c.declares creationSignature = false) ∧
    scene.ancestryFrom 100 [] main.cls = [mainClass, base] ∧
    scene.IsCallees mainBody [base.refTo create] ∧
    scene.calleesOf (base.refTo create) = .error (.noBody (base.refTo create)) ∧
    scene.Creation create (.ok (base.refTo create)) ∧
    scene.Creation creationSignature (.error (.noCreationMethod creationSignature)) := by
  obtain ⟨hfound, hmissing, hend, hcallees, hnoBody, hcreation⟩ :=
    scene.discovery_follows_hierarchy
  have hnearest : scene.Nearest main.cls create base created := by
    refine ⟨1, rfl, rfl, fun k hk c hc => ?_⟩
    obtain rfl : k = 0 := Nat.lt_one_iff.1 hk
    obtain rfl := Option.some.inj hc
    rfl
  obtain ⟨callees, hok, hiff⟩ := hcallees main mainBody rfl
  obtain rfl : [base.refTo create] = callees := Except.ok.inj hok
  exact ⟨(hfound _ _ _ _).2 hnearest, (hmissing _ _).1 rfl, hend main.cls 100 (by decide),
    (hiff _).2 rfl, hnoBody _ _ rfl, (hcreation _ _).1 rfl, (hcreation _ _).1 rfl⟩

end SampleProgram

end Weaver
