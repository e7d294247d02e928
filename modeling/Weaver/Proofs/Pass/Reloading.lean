import Mathlib.Logic.Relation
import Weaver.Proofs.Files.Classes
import Weaver.Proofs.Pass.Atomicity
import Weaver.Proofs.Pass.ReloadablePasses

/-!
# Instrumented Scenes Can Be Loaded Again

An injection, a wrapping and a substitution each take a scene of reloadable classes to one of
reloadable classes. After any number of them the scene can be dumped into an empty directory,
and what is loaded from there has the same classes, with the same texts and the same
statements. This asks no more of the listing than that it finds the files of a directory.

A substitution is asked not to rename a local that is called by a word for a type: the names
of locals are exchanged in verbatim expressions as well, and `new int` is verbatim while
`new replaced_int` is the allocation of an object.

## Main definitions

* `Scene.Pass`: what a pass may do to a scene.
* `Scene.ReadsBackAs`: a scene and another one that is read from the texts of its classes.

## Main results

* `Scene.Pass.reloadable`, `Scene.Reloadable.passes`: passes keep scenes reloadable.
* `Scene.Pass.exists_reload`: **an instrumented scene can be loaded again**.
* `SampleTypeWord.replaceType_not_readBack`: why words for types are left out.
-/

namespace Weaver

/-! ### Reading back -/

/-- The second scene is read from the texts of the classes of the first one: it has the same
classes, and the same code in the same methods. -/
structure Scene.ReadsBackAs (s loaded : Scene) : Prop where
  names : loaded.classes.map Class.name = s.classes.map Class.name
  texts : loaded.classes.map Class.text = s.classes.map Class.text
  bodies : ∀ m b, s.body m = .ok b → ∃ b', loaded.body m = .ok b' ∧
    b'.statements = b.statements ∧ b'.locals.Perm b.locals

namespace Scene

variable {s s' : Scene}

/-- Classes are found under the same names, up to new handles. -/
theorem class?_of_normalized (h : s'.classes = s.classes.map Class.normalized) (name : ClassName) :
    s'.class? name = (s.class? name).map Class.normalized := by
  rw [class?, h, List.find?_map]
  rfl

/-- A class with new handles has the same methods, up to new handles. -/
theorem method?_normalized (c : Class) (sig : Signature) :
    c.normalized.method? sig = (c.method? sig).map Method.normalized := by
  rw [Class.method?, Class.normalized, List.find?_map]
  rfl

/-- Methods are found under the same references, up to new handles. -/
theorem method?_of_normalized (h : s'.classes = s.classes.map Class.normalized) (m : MethodRef) :
    s'.method? m = (s.method? m).map Method.normalized := by
  rw [method?, class?_of_normalized h, method?]
  cases s.class? m.cls with
  | none => rfl
  | some c => exact method?_normalized c m.sig

/-- A body is found again as it is read. -/
theorem body_of_normalized (h : s'.classes = s.classes.map Class.normalized) {m : MethodRef}
    {b : Body} (hb : s.body m = .ok b) : s'.body m = .ok b.normalized := by
  rw [body] at hb ⊢
  rw [method?_of_normalized h]
  cases hmethod : s.method? m with
  | none =>
    rw [hmethod] at hb
    cases hb
  | some method =>
    rw [hmethod] at hb
    cases hbody : method.body with
    | none => simp only [hbody, reduceCtorEq] at hb
    | some b' =>
      simp only [hbody, Except.ok.injEq] at hb
      simp only [Option.map_some, Method.normalized, hbody, hb]

/-- A scene with new handles is read back from the texts. -/
theorem ReadsBackAs.of_normalized (h : s'.classes = s.classes.map Class.normalized) :
    s.ReadsBackAs s' where
  names := by
    rw [h, List.map_map]
    rfl
  texts := by
    rw [h, List.map_map]
    exact List.map_congr_left fun c _ => c.text_normalized
  bodies := by
    intro m b hb
    obtain ⟨-, hlocals, hstatements⟩ := b.normalized_spec
    exact ⟨b.normalized, body_of_normalized h hb, hstatements, hlocals⟩

/-! ### Passes -/

/-- **A pass** over a scene succeeds. It is given names of the right form, and a substitution
finds no local of the replaced class that is called by a word for a type. -/
inductive Pass (s : Scene) : Scene → Prop
  | injection {lifecycle : Lifecycle} {registry : ListenerRegistry} {outcome : InjectionOutcome}
      {s' : Scene} (hlifecycle : lifecycle.WellFormed) (hregistry : registry.WellFormed)
      (run : s.inject lifecycle registry = (.ok outcome, s')) : Pass s s'
  | wrapping {m helper : MethodRef} {selects : Ty → Bool} {n : Nat} {s' : Scene}
      (hhelper : helper.WellFormed)
      (run : s.rewriteBody m id (fun b _ => b.wrapFirstArgument helper selects) = (.ok n, s')) :
      Pass s s'
  | substitution {m : MethodRef} {old new : Text} {report : SubstitutionReport} {s' : Scene}
      (hnew : ClassName.WellFormed ⟨new⟩)
      (htypes : ∀ b, s.body m = .ok b → ∀ l ∈ b.locals, l.ty.isClass old = true →
        ∀ t ∈ Ty.named, t.text ≠ l.name)
      (run : s.rewriteBody m id (fun b s => b.replaceType s old new) = (.ok report, s')) :
      Pass s s'

/-- **One pass** keeps a scene reloadable and has the same classes. -/
theorem Pass.reloadable (h : s.Reloadable) (hpass : s.Pass s') :
    s'.Reloadable ∧ s'.classes.map Class.name = s.classes.map Class.name := by
  cases hpass with
  | injection hlifecycle hregistry run =>
    rename_i lifecycle registry outcome
    obtain hr | ⟨e, hr⟩ | ⟨b, b', report, hb, hcalls, hr⟩ := s.inject_cases lifecycle registry
    · rw [hr] at run
      obtain ⟨-, rfl⟩ := Prod.mk.inj run
      exact ⟨h, rfl⟩
    · rw [hr] at run
      cases run
    · rw [hr] at run
      obtain ⟨-, rfl⟩ := Prod.mk.inj run
      obtain ⟨hnew, hmethod⟩ :=
        Body.injectCalls_reloadable (h.body hb) h hlifecycle hregistry hcalls
      exact ⟨h.setBody hb hnew hmethod, s.names_setBody _ b'⟩
  | wrapping hhelper run =>
    exact rewriteBody_reloadable h run fun b b' _ hform hrun =>
      Body.wrapFirstArgument_reloadable hform hhelper hrun
  | substitution hnew htypes run =>
    exact rewriteBody_reloadable h run fun b b' hb hform hrun =>
      Body.replaceType_reloadable hform h hnew (htypes b hb) hrun

/-- **Any number of passes.** -/
theorem Reloadable.passes (h : s.Reloadable) (hpasses : Relation.ReflTransGen Pass s s') :
    s'.Reloadable ∧ s'.classes.map Class.name = s.classes.map Class.name := by
  induction hpasses with
  | refl => exact ⟨h, rfl⟩
  | tail _ hpass ih =>
    obtain ⟨h₁, hnames⟩ := ih
    obtain ⟨h₂, hnames'⟩ := hpass.reloadable h₁
    exact ⟨h₂, hnames'.trans hnames⟩

/-- **An instrumented scene can be loaded again.** If all names of a scene are of the right
form and those of its files fit on a disk, this is so after any number of passes as well; and if
the scene is then dumped into an empty directory, it is read back from what is loaded from there:
with the same classes, their texts, and the code of all methods, whether a pass has touched it or
not. Any listing that finds the files of the directory will do. -/
theorem Reloadable.exists_reload {d : Disk} {dir : Text} {place : Place} {list : Listing}
    (hlist : list.FindsFiles) (h : s.Reloadable) (hfits : ∀ c ∈ s.classes, c.FileFits)
    (hpasses : Relation.ReflTransGen Pass s s') (hd : d.EmptyDir dir place) :
    s'.Reloadable ∧ s'.classes.map Class.name = s.classes.map Class.name ∧
      ∃ d' loaded, s'.dumpDir dir d = (.ok s'.classes.length, d') ∧
        loadDirWith list d' dir = .ok loaded ∧ s'.ReadsBackAs loaded := by
  obtain ⟨h', hnames⟩ := h.passes hpasses
  have hfits' : ∀ c ∈ s'.classes, c.FileFits := by
    intro c hc
    have hname : c.name ∈ s.classes.map Class.name := hnames ▸ List.mem_map_of_mem hc
    obtain ⟨c', hc', heq⟩ := List.mem_map.1 hname
    rw [Class.FileFits, Class.fileName, ← heq]
    exact hfits c' hc'
  obtain ⟨d', loaded, hdump, hload, hclasses⟩ :=
    s'.exists_loadDir_dumpDir hlist (fun c hc => (h' c hc).toWellFormed) hfits' hd
  exact ⟨h', hnames, d', loaded, hdump, hload, .of_normalized hclasses⟩

end Scene

namespace SampleListing

/-- The scene of one class. -/
def scene : Scene :=
  { classes := [greeter], entryPoints := [], ordered := List.pairwise_singleton _ _ }

/-- The method with the code. -/
def method : MethodRef :=
  { cls := owner, sig := greet }

/-- A helper for texts. -/
def checked : MethodRef :=
  { cls := owner, sig := ⟨.class_ stringClass, "checked".toList, [.class_ stringClass]⟩ }

/-- The scene after texts have been wrapped. -/
def wrapped : Scene :=
  (scene.rewriteBody method id fun b _ => b.wrapFirstArgument checked (·.isClass stringClass)).2

/-- The scene after the class of the receiver has been replaced as well. -/
def substituted : Scene :=
  (wrapped.rewriteBody method id fun b s =>
    b.replaceType s "demo.Greeter".toList "java.lang.Object".toList).2

/-- A disk with an empty directory. -/
def disk : Disk :=
  { nodes := [(["out".toList], .dir)], workingDir := [], tempDirs := 0 }

/-- The scene of the example is reloadable. -/
theorem reloadable_scene : scene.Reloadable := by
  have husable : ∀ l ∈ body.locals, IsLocal l.name := by
    simp only [body, List.forall_mem_cons, List.not_mem_nil, false_imp_iff, implies_true, and_true]
    exact ⟨isLocal_r0, isLocal_i0, isLocal_r1⟩
  refine List.forall_mem_singleton.2 ⟨wellFormed_greeter, List.forall_mem_singleton.2 ?_⟩
  rintro b ⟨rfl⟩
  exact husable

/-- The helper has a well-formed reference. -/
theorem wellFormed_checked : checked.WellFormed := by
  have hstring : Ty.WellFormed (.class_ stringClass) :=
    ⟨by decide, ⟨'j', "ava.lang.String".toList, rfl, rfl, rfl⟩, by decide⟩
  have hname : IsMethodName "checked".toList := .inl ⟨by decide, by decide⟩
  exact ⟨wellFormed_owner, hstring, hname, List.forall_mem_singleton.2 hstring⟩

/-- The example after two passes, written to an empty directory and loaded again. -/
theorem exists_reload_substituted :
    ∃ d' loaded, substituted.dumpDir "/out".toList disk = (.ok 1, d') ∧
      Scene.loadDir d' "/out".toList = .ok loaded ∧ substituted.ReadsBackAs loaded := by
  have hwrap : scene.rewriteBody method id
      (fun b _ => b.wrapFirstArgument checked (·.isClass stringClass)) = (.ok 1, wrapped) := rfl
  obtain ⟨report, hreplace⟩ : ∃ report, wrapped.rewriteBody method id (fun b s =>
      b.replaceType s "demo.Greeter".toList "java.lang.Object".toList) =
        (.ok report, substituted) := ⟨_, rfl⟩
  have htypes : ∀ b, wrapped.body method = .ok b → ∀ l ∈ b.locals,
      l.ty.isClass "demo.Greeter".toList = true → ∀ t ∈ Ty.named, t.text ≠ l.name := by
    rintro b ⟨rfl⟩
    decide
  have hpasses : Relation.ReflTransGen Scene.Pass scene substituted :=
    .tail (.single (.wrapping wellFormed_checked hwrap))
      (.substitution (wellFormed_greeter.superclass _ rfl) htypes hreplace)
  have hfits : ∀ c ∈ scene.classes, c.FileFits := by
    unfold Class.FileFits
    decide
  have hdisk : disk.EmptyDir "/out".toList ["out".toList] := by
    refine ⟨rfl, rfl, ?_⟩
    decide
  obtain ⟨-, -, d', loaded, hdump, hload, hback⟩ :=
    Scene.Reloadable.exists_reload Scene.findsFiles_walk reloadable_scene hfits hpasses hdisk
  exact ⟨d', loaded, hdump, hload, hback⟩

end SampleListing

/-! ### Words for types -/

namespace SampleTypeWord

/-- The class. -/
def cls : ClassName :=
  ⟨"A".toList⟩

/-- The method with the code. -/
def method : MethodRef :=
  { cls, sig := ⟨.void, "f".toList, []⟩ }

/-- The body with one more local that assigns a value to a local. -/
def bodyWith (l : Local) (v : Value) : Body where
  method := method
  locals := [l, ⟨"x".toList, .class_ "java.lang.Object".toList⟩]
  stmts := [(⟨0⟩, .assignVar "x".toList v), (⟨1⟩, .ret none)]
  nextId := 2

/-- The class with that body. -/
def classWith (l : Local) (v : Value) : Class where
  name := cls
  modifiers := []
  isInterface := false
  superclass := none
  interfaces := []
  fields := []
  methods := [{ sig := method.sig, modifiers := [], throws := [], body := some (bodyWith l v) }]

/-- The scene of a class that assigns no allocation, since no class stands behind `new`. -/
def scene : Scene where
  classes := [classWith ⟨"int".toList, .class_ "C".toList⟩ (.verbatim "new int".toList)]
  entryPoints := []
  ordered := List.pairwise_singleton _ _

/-- The local after its class has been replaced. -/
def replacedLocal : Local :=
  ⟨"replaced_int".toList, .class_ "D".toList⟩

/-- The scene after the class of the local has been replaced. -/
def replaced : Scene :=
  (scene.rewriteBody method id fun b s => b.replaceType s "C".toList "D".toList).2

/-- The class is reloadable whatever the other local and the value are. -/
theorem reloadable_classWith {l : Local} (hname : IsLocal l.name) (hty : l.ty.WellFormed)
    (hx : l.name ≠ "x".toList) {v : Value} (hv : v.IsSource) : (classWith l v).Reloadable := by
  have hlocal : IsLocal "x".toList := ⟨rfl, by decide, by decide, rfl⟩
  have hobject : Ty.WellFormed (.class_ "java.lang.Object".toList) :=
    ⟨by decide, ⟨'j', "ava.lang.Object".toList, rfl, rfl, rfl⟩, by decide⟩
  have hreturn : Stmt.WellFormed (.ret none) := by simp [Stmt.WellFormed]
  have hassign : Stmt.WellFormed (.assignVar "x".toList v) := ⟨hlocal, hv⟩
  have hbody : (bodyWith l v).WellFormed := {
    locals := List.forall_mem_cons.2 ⟨⟨hname.form, hty⟩, List.forall_mem_singleton.2 ⟨rfl, hobject⟩⟩
    distinct := List.nodup_cons.2 ⟨by simpa using hx, List.nodup_singleton _⟩
    stmts := List.forall_mem_cons.2 ⟨hassign, List.forall_mem_singleton.2 hreturn⟩
    first := by
      rintro code h
      cases h }
  have hsig : method.sig.WellFormed := ⟨trivial, .inl ⟨by decide, by decide⟩, by simp [method]⟩
  have hmethod : Method.WellFormed (classWith l v) ⟨method.sig, [], [], some (bodyWith l v)⟩ := {
    sig := hsig
    throws := by simp
    owner := by
      rintro b ⟨rfl⟩
      rfl
    body := by
      rintro b ⟨rfl⟩
      exact hbody }
  have hcls : cls.WellFormed := ⟨by decide, ⟨'A', [], rfl, rfl, rfl⟩, by decide⟩
  refine ⟨⟨hcls, by simp [classWith], by simp [classWith], by simp [classWith],
    List.forall_mem_singleton.2 hmethod⟩, List.forall_mem_singleton.2 ?_⟩
  rintro b ⟨rfl⟩
  exact List.forall_mem_cons.2 ⟨hname, List.forall_mem_singleton.2 hlocal⟩

/-- An allocation without a class is kept as it is written. -/
theorem isExpression_newInt : IsExpression "new int".toList where
  line := by decide
  trimmed := rfl
  noCall := isNoCall_of_head (by decide)
  other := by
    have hform : Ty.int.WellFormed := trivial
    have hint : Ty.read? "int".toList = some .int := Ty.read?_text hform
    have halloc : readAlloc? "new int".toList = none := by
      have hstrip : Text.stripPrefix? "new ".toList "new int".toList = some "int".toList := rfl
      rw [readAlloc?, hstrip]
      simp only [Option.bind_some, hint]
    exact Value.readSimple_eq_verbatim_iff.2 ⟨rfl, halloc, rfl, rfl, rfl⟩

/-- The scene is reloadable before the pass. -/
theorem reloadable_scene : scene.Reloadable := by
  have hint : IsLocal "int".toList := ⟨rfl, by decide, by decide, rfl⟩
  have hold : Ty.WellFormed (.class_ "C".toList) :=
    ⟨by decide, ⟨'C', [], rfl, rfl, rfl⟩, by decide⟩
  exact List.forall_mem_singleton.2 (reloadable_classWith hint hold (by decide)
    (.inr (.inr ⟨_, rfl, isExpression_newInt⟩)))

/-- **Words for types are left out for a reason.** In the text of the class, what the renaming
makes of verbatim code is the allocation of an object. -/
theorem replaceType_not_readBack : scene.Reloadable ∧
    (∃ report, scene.rewriteBody method id (fun b s => b.replaceType s "C".toList "D".toList) =
      (.ok report, replaced)) ∧
    replaced.classes = [classWith replacedLocal (.verbatim "new replaced_int".toList)] ∧
    Class.read (classWith replacedLocal (.verbatim "new replaced_int".toList)).text =
      .ok (classWith replacedLocal (.alloc ⟨"replaced_int".toList⟩)).normalized := by
  have hreplaced : IsLocal "replaced_int".toList := ⟨rfl, by decide, by decide, rfl⟩
  have hnew : Ty.WellFormed (.class_ "D".toList) :=
    ⟨by decide, ⟨'D', [], rfl, rfl, rfl⟩, by decide⟩
  have halloc : Value.IsOperand (.alloc ⟨"replaced_int".toList⟩) :=
    ⟨by decide, ⟨'r', "eplaced_int".toList, rfl, rfl, rfl⟩, by decide⟩
  -- The class that really allocates is written alike.
  have hform := reloadable_classWith (l := replacedLocal) hreplaced hnew (by decide) (.inl halloc)
  exact ⟨reloadable_scene, ⟨_, rfl⟩, rfl, hform.toWellFormed.read_text⟩

end SampleTypeWord

end Weaver
