import Weaver.Pass.Lifecycle
import Weaver.Pass.Seeding
import Weaver.Proofs.Jimple.Resolution

/-!
# Entry Points from Manifests, in Their Order

The main activities of a manifest are listed in the order of the first places where their names
stand, and so are the creation methods that a scene declares for them. Seeding puts those among them
that are no entry points yet behind the entry points of before, and changes nothing else.

The number that it tells is that of all creation methods, also of those that were entry points
already. So it is the number of entry points that are added only if there are none of these; seeding
once more tells the same number again and adds nothing.

## Main definitions

* `Scene.CreatesAt`: the creation methods at the places of a manifest.

## Main results

* `Enumerates.filterMap`: choosing among enumerated values.
* `Scene.enumerates_creationMethods`: **the creation methods of the main activities**.
* `Scene.seedEntryPoints_enumerates`: what seeding adds, and when it tells how much.
* `Scene.seedEntryPoints_again`: **seeding twice**.
-/

namespace Weaver

/-! ### Lists in the order of first places -/

/-- Choosing one value for each of some enumerated ones, different values for different ones,
**keeps the order**. -/
theorem Enumerates.filterMap {α β : Type} {At : Nat → α → Prop} {xs : List α}
    (h : Enumerates At xs) {f : α → Option β}
    (hf : ∀ x x' y, f x = some y → f x' = some y → x = x') :
    Enumerates (fun i y => ∃ x, At i x ∧ f x = some y) (xs.filterMap f) where
  mem_iff y := by
    rw [List.mem_filterMap]
    constructor
    · rintro ⟨x, hx, hy⟩
      obtain ⟨i, hi⟩ := (h.mem_iff x).1 hx
      exact ⟨i, x, hi, hy⟩
    · rintro ⟨i, x, hi, hy⟩
      exact ⟨x, (h.mem_iff x).2 ⟨i, hi⟩, hy⟩
  nodup := h.nodup.filterMap hf
  ordered := by
    rw [List.pairwise_filterMap]
    refine h.ordered.imp ?_
    rintro x x' ⟨i, hi, hbefore⟩ y hy y' hy'
    refine ⟨i, ⟨x, hi, hy⟩, ?_⟩
    rintro j ⟨x'', hj, hy''⟩
    obtain rfl := hf x'' x' y' hy'' hy'
    exact hbefore j hj

/-- Leaving out some of the enumerated values keeps the order. -/
theorem Enumerates.filter {β : Type} {At : Nat → β → Prop} {ys : List β} (h : Enumerates At ys)
    (p : β → Prop) [DecidablePred p] :
    Enumerates (fun i y => At i y ∧ p y) (ys.filter (p ·)) where
  mem_iff y := by
    rw [List.mem_filter, h.mem_iff, decide_eq_true_iff]
    exact exists_and_right.symm
  nodup := h.nodup.filter _
  ordered := by
    refine List.Pairwise.imp_of_mem ?_ (h.ordered.filter _)
    rintro y y' hy - ⟨i, hi, hbefore⟩
    exact ⟨i, ⟨hi, of_decide_eq_true (List.mem_filter.1 hy).2⟩, fun j hj => hbefore j hj.1⟩

namespace Scene

/-- Adding different values one after the other **appends those that are new**. -/
theorem foldl_addNew_of_nodup {β : Type} [DecidableEq β] {xs : List β} (h : xs.Nodup)
    (ys : List β) : xs.foldl addNew ys = ys ++ xs.filter (· ∉ ys) := by
  induction xs generalizing ys with
  | nil => exact (List.append_nil ys).symm
  | cons x xs ih =>
    rw [List.nodup_cons] at h
    rw [List.foldl_cons, ih h.2, addNew]
    split
    next hold => rw [List.filter_cons_of_neg (by simpa using hold)]
    next hnew =>
      have hrest : xs.filter (· ∉ ys ++ [x]) = xs.filter (· ∉ ys) := by
        refine List.filter_congr fun y hy => ?_
        have hne : y ≠ x := fun heq => h.1 (heq ▸ hy)
        simp [hne]
      rw [List.filter_cons_of_pos (by simpa using hnew), hrest, List.append_assoc,
        List.singleton_append]

/-! ### The creation methods of a manifest -/

/-- **The creation method at a place of a manifest**: the name of a main activity stands there, or,
behind all activities, the target of such an alias; taken relative to the package, it names a class
of the scene, and this class declares the signature. -/
def CreatesAt (s : Scene) (m : Manifest) (sig : Signature) (i : Nat) (r : MethodRef) : Prop :=
  ∃ name c, m.mainNames[i]? = some name ∧ s.class? (m.qualify name) = some c ∧
    c.declares sig = true ∧ r = { cls := m.qualify name, sig }

variable {s : Scene} {m : Manifest} {sig : Signature} {cls : ClassName} {r : MethodRef}

/-- What is looked up is the declaration of the signature in the class, if it has one. -/
theorem declared?_eq_some_iff :
    s.declared? sig cls = some r ↔
      ∃ c, s.class? cls = some c ∧ c.declares sig = true ∧ r = { cls, sig } := by
  rw [declared?, Option.bind_eq_bind, Option.bind_eq_some_iff]
  refine exists_congr fun c => and_congr_right fun hc => ?_
  rw [Option.ite_none_right_eq_some, Option.some.injEq, Class.refTo, name_of_class? hc,
    @eq_comm _ r]

/-- The main activities are listed by their first places in the manifest. -/
theorem enumerates_mainActivities (m : Manifest) :
    Enumerates (fun i cls => m.mainNames[i]?.map m.qualify = some cls) m.mainActivities := by
  have h := Enumerates.foldl_addNew (some ∘ m.qualify) m.mainNames
  rw [List.filterMap_eq_map] at h
  simp only [Option.map_eq_bind]
  exact h

/-- **The creation methods of the main activities** are listed once each, in the order of the
manifest. -/
theorem enumerates_creationMethods (s : Scene) (m : Manifest) (sig : Signature) :
    Enumerates (s.CreatesAt m sig) (s.creationMethods m sig) := by
  have hinj : ∀ cls cls' r, s.declared? sig cls = some r → s.declared? sig cls' = some r →
      cls = cls' := by
    intro cls cls' r h h'
    obtain ⟨-, -, -, rfl⟩ := declared?_eq_some_iff.1 h
    obtain ⟨-, -, -, heq⟩ := declared?_eq_some_iff.1 h'
    exact congrArg MethodRef.cls heq
  have hplaces : s.CreatesAt m sig = fun i r =>
      ∃ cls, m.mainNames[i]?.map m.qualify = some cls ∧ s.declared? sig cls = some r := by
    funext i r
    refine propext ⟨?_, ?_⟩
    · rintro ⟨name, c, hname, hc, hsig, rfl⟩
      exact ⟨m.qualify name, by rw [hname, Option.map_some],
        declared?_eq_some_iff.2 ⟨c, hc, hsig, rfl⟩⟩
    · rintro ⟨cls, hcls, hr⟩
      obtain ⟨name, hname, rfl⟩ := Option.map_eq_some_iff.1 hcls
      obtain ⟨c, hc, hsig, hr⟩ := declared?_eq_some_iff.1 hr
      exact ⟨name, c, hname, hc, hsig, hr⟩
  rw [hplaces]
  exact (enumerates_mainActivities m).filterMap hinj

/-! ### Seeding -/

/-- Adding entry points one by one appends the new ones and keeps the classes. -/
theorem foldl_addEntryPoint (s : Scene) (ms : List MethodRef) :
    (ms.foldl addEntryPoint s).classes = s.classes ∧
      (ms.foldl addEntryPoint s).entryPoints = ms.foldl addNew s.entryPoints := by
  induction ms generalizing s with
  | nil => exact ⟨rfl, rfl⟩
  | cons r ms ih =>
    obtain ⟨hclasses, hentries⟩ := ih (s.addEntryPoint r)
    have hstep : (s.addEntryPoint r).classes = s.classes ∧
        (s.addEntryPoint r).entryPoints = addNew s.entryPoints r := by
      rw [addEntryPoint, addNew]
      split <;> exact ⟨rfl, rfl⟩
    rw [List.foldl_cons, List.foldl_cons, hclasses, hentries, hstep.1, hstep.2]
    exact ⟨rfl, rfl⟩

/-- **What seeding does.** Behind the entry points of before, it adds the creation methods of the
main activities that were none of them, once each and in the order of the manifest, and it changes
nothing else. The number that it tells is that of all creation methods; it is the number of those
that are added exactly if none of them was an entry point before. -/
theorem seedEntryPoints_enumerates (s : Scene) (m : Manifest) (sig : Signature) :
    ∃ found added,
      Enumerates (s.CreatesAt m sig) found ∧
      Enumerates (fun i r => s.CreatesAt m sig i r ∧ r ∉ s.entryPoints) added ∧
      (s.seedEntryPoints m sig).2.entryPoints = s.entryPoints ++ added ∧
      (s.seedEntryPoints m sig).2.classes = s.classes ∧
      (s.seedEntryPoints m sig).1 = found.length ∧
      ((s.seedEntryPoints m sig).1 = added.length ↔
        ∀ i r, s.CreatesAt m sig i r → r ∉ s.entryPoints) := by
  have hfound := s.enumerates_creationMethods m sig
  have hadded := hfound.filter (· ∉ s.entryPoints)
  obtain ⟨hclasses, hentries⟩ := s.foldl_addEntryPoint (s.creationMethods m sig)
  rw [foldl_addNew_of_nodup hfound.nodup] at hentries
  refine ⟨_, _, hfound, hadded, hentries, hclasses, rfl, ?_⟩
  rw [seedEntryPoints, eq_comm, List.length_filter_eq_length_iff]
  constructor
  · exact fun h i r hr => of_decide_eq_true (h r ((hfound.mem_iff r).2 ⟨i, hr⟩))
  · intro h r hr
    obtain ⟨i, hi⟩ := (hfound.mem_iff r).1 hr
    exact decide_eq_true (h i r hi)

/-- Adding entry points that are there changes nothing. -/
theorem foldl_addEntryPoint_of_subset {ms : List MethodRef} (h : ∀ r ∈ ms, r ∈ s.entryPoints) :
    ms.foldl addEntryPoint s = s := by
  induction ms with
  | nil => rfl
  | cons r ms ih =>
    rw [List.forall_mem_cons] at h
    rw [List.foldl_cons, addEntryPoint, if_pos h.1, ih h.2]

/-- **Seeding twice** adds nothing, but it tells the same number again. -/
theorem seedEntryPoints_again (s : Scene) (m : Manifest) (sig : Signature) :
    (s.seedEntryPoints m sig).2.seedEntryPoints m sig = s.seedEntryPoints m sig := by
  have hfound := s.enumerates_creationMethods m sig
  obtain ⟨hclasses, hentries⟩ := s.foldl_addEntryPoint (s.creationMethods m sig)
  have hmethods : (s.seedEntryPoints m sig).2.creationMethods m sig = s.creationMethods m sig := by
    have hdeclared : (s.seedEntryPoints m sig).2.declared? sig = s.declared? sig := by
      funext cls
      rw [declared?, declared?, class?, class?, seedEntryPoints, hclasses]
    rw [creationMethods, hdeclared, creationMethods]
  have hold : ∀ r ∈ s.creationMethods m sig, r ∈ (s.seedEntryPoints m sig).2.entryPoints := by
    intro r hr
    rw [seedEntryPoints, hentries, foldl_addNew_of_nodup hfound.nodup, List.mem_append,
      List.mem_filter]
    by_cases hmem : r ∈ s.entryPoints
    · exact .inl hmem
    · exact .inr ⟨hr, decide_eq_true hmem⟩
  rw [seedEntryPoints, hmethods, foldl_addEntryPoint_of_subset hold]
  rfl

end Scene

/-! ### A program whose entry point is known before -/

namespace SampleManifest

/-- The creation method of the activity. -/
def creation : MethodRef :=
  { cls := ⟨"app.Main".toList⟩, sig := creationSignature }

/-- The activity. -/
def activity : Class :=
  { name := creation.cls, modifiers := [], isInterface := false, superclass := none
    interfaces := [], fields := []
    methods := [{ sig := creationSignature, modifiers := [], throws := [], body := none }] }

/-- The program; its creation method is an entry point already. -/
def scene : Scene :=
  { classes := [activity], entryPoints := [creation]
    ordered := by
      rw [Increasing]
      decide }

/-- The manifest, which also has an alias for the activity. -/
def manifest : Manifest :=
  { package := "app".toList
    activities := [⟨".Main".toList, [⟨[mainAction], []⟩]⟩]
    aliases := [⟨".Start".toList, "Main".toList, [⟨[mainAction], []⟩]⟩] }

/-- **Seeding tells of an entry point that is not added.** -/
theorem seedEntryPoints_overcounts :
    (scene.seedEntryPoints manifest creationSignature).1 = 1 ∧
      scene.entryPoints = [creation] ∧
      (scene.seedEntryPoints manifest creationSignature).2.entryPoints = [creation] ∧
      (scene.seedEntryPoints manifest creationSignature).2.entryPoints.length ≠
        scene.entryPoints.length + (scene.seedEntryPoints manifest creationSignature).1 := by
  decide

end SampleManifest

end Weaver
