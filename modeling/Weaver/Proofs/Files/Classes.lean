import Mathlib.Data.List.Perm.Basic
import Weaver.Proofs.Files.Listing
import Weaver.Proofs.Jimple.Chain
import Weaver.Proofs.Jimple.RoundTrip.Class

/-!
# Loading What Was Dumped

A scene that is dumped into an empty directory leaves one file for each of its classes there,
next to each other and with nothing else. Loading finds them in the order of some listing, which
need not be that of the classes, reads each of them back and sorts the classes again.

## Main definitions

* `Disk.EmptyDir`: a path that leads to an empty directory.
* `Disk.withClasses`: a disk with the files of some classes.

## Main results

* `Scene.dumpDir_eq_ok`: **what dumping leaves** on a disk.
* `Disk.EmptyDir.holdsFiles`: the directory holds the files of the classes and nothing else.
* `Scene.exists_loadDir_dumpDir`: **loading gives back what was dumped**, whatever listing finds the
  files.
-/

namespace Weaver

/-! ### The files of classes -/

/-- The name of the file of a class. -/
def Class.fileName (c : Class) : Text :=
  c.name.chars ++ '.' :: Scene.fileExtension

/-- The name of a file fits on a disk. -/
def Class.FileFits (c : Class) : Prop :=
  Utf8.length c.fileName ≤ Disk.maxNameLength

/-- The file of a class is called by its name in the directory. -/
theorem Class.classFile_eq (dir : Text) (c : Class) :
    Scene.classFile dir c = Path.join dir c.fileName :=
  rfl

/-- **A name of a class is the name of a file**, with the extension behind it. -/
theorem Class.isName_fileName {c : Class} (h : c.name.WellFormed) (hfits : c.FileFits) :
    Path.IsName c.fileName := by
  obtain ⟨d, rest, hd, hword, -⟩ := h.head
  have hdot : d ≠ '.' := by
    rintro rfl
    cases hword
  have hcons : c.fileName = d :: (rest ++ '.' :: Scene.fileExtension) := by
    rw [fileName, hd, List.cons_append]
  refine ⟨?_, ?_, ?_, ?_, hfits⟩
  · rw [hcons]
    exact List.cons_ne_nil _ _
  · rw [fileName, List.mem_append, not_or]
    exact ⟨h.not_mem rfl, by decide⟩
  · rw [hcons]
    exact fun heq => hdot (List.cons.inj heq).1
  · rw [hcons]
    exact fun heq => hdot (List.cons.inj heq).1

/-- Different classes have different files. -/
theorem Class.fileName_inj {c c' : Class} (h : c.fileName = c'.fileName) : c.name = c'.name := by
  have hchars : c.name.chars = c'.name.chars := List.append_cancel_right h
  obtain ⟨⟨chars⟩⟩ := c
  obtain ⟨⟨chars'⟩⟩ := c'
  exact congrArg ClassName.mk hchars

/-- Files of classes have the extension that is looked for. -/
theorem Class.hasExtension_classFile {dir : Text} (hdir : dir ≠ []) {c : Class}
    (hname : Path.IsName c.fileName) (hne : c.name.chars ≠ []) :
    Path.hasExtension (Scene.classFile dir c) Scene.fileExtension = true := by
  have hcut : Text.cutAtLast? '.' c.fileName = some (c.name.chars, Scene.fileExtension) :=
    Text.cutAtLast?_append _ (by decide)
  rw [classFile_eq, Path.hasExtension, Path.extension?, Path.fileName?_join hdir hname,
    Option.bind_some, Path.cutName, hcut]
  simp [hne]

/-! ### Disks with classes -/

namespace Disk

/-- The path leads to a directory with nothing in it. -/
def EmptyDir (d : Disk) (dir : Text) (place : Place) : Prop :=
  d.locate dir = .ok place ∧ d.at? place = some .dir ∧
    ∀ e ∈ d.nodes, place <+: e.1 → e.1 = place

/-- The node of the file of a class. -/
def classNode (c : Class) : Node :=
  .file (.data (.text c.text)) false

/-- The disk with the files of some classes at a place. -/
def withClasses (d : Disk) (place : Place) (cs : List Class) : Disk :=
  { d with nodes := d.nodes ++ cs.map fun c => (place ++ [c.fileName], classNode c) }

variable {d : Disk} {dir : Text} {place : Place} {cs : List Class}

/-- An empty path leads nowhere. -/
theorem EmptyDir.ne_nil (h : d.EmptyDir dir place) : dir ≠ [] := by
  rintro rfl
  cases h.1

/-- Nothing is in an empty directory. -/
theorem EmptyDir.ne (h : d.EmptyDir dir place) {e : Place × Node} (he : e ∈ d.nodes)
    (name : Text) : e.1 ≠ place ++ [name] := by
  intro heq
  have hplace := h.2.2 e he (heq ▸ List.prefix_append _ _)
  rw [heq] at hplace
  exact absurd hplace (by simp)

/-- More is on the disk with the classes. -/
theorem extends_withClasses (d : Disk) (place : Place) (cs : List Class) :
    d.Extends (d.withClasses place cs) where
  workingDir := rfl
  at? := by
    intro p node hp
    by_cases hnil : p = []
    · rw [at?, if_pos hnil] at hp ⊢
      exact hp
    · rw [at?_of_ne_nil hnil] at hp ⊢
      obtain ⟨e, he, rfl⟩ := Option.map_eq_some_iff.1 hp
      rw [withClasses, List.find?_append, he]
      rfl

/-- A file of another name is not among those of the classes. -/
theorem EmptyDir.at?_eq_none (h : d.EmptyDir dir place) {name : Text}
    (hname : ∀ c ∈ cs, c.fileName ≠ name) :
    (d.withClasses place cs).at? (place ++ [name]) = none := by
  rw [at?_of_ne_nil (by simp), Option.map_eq_none_iff, List.find?_eq_none]
  intro e he
  rw [withClasses, List.mem_append, List.mem_map] at he
  obtain he | ⟨c, hc, rfl⟩ := he
  · simpa using h.ne he name
  · simpa using hname c hc

/-- **The file of a class.** -/
theorem EmptyDir.at?_eq_some (h : d.EmptyDir dir place) (hnd : (cs.map Class.fileName).Nodup)
    {c : Class} (hc : c ∈ cs) :
    (d.withClasses place cs).at? (place ++ [c.fileName]) = some (classNode c) := by
  obtain ⟨pre, post, rfl⟩ := List.append_of_mem hc
  rw [List.map_append, List.map_cons, List.nodup_middle, List.nodup_cons] at hnd
  have hold : d.nodes.find? (fun e => e.1 == place ++ [c.fileName]) = none := by
    rw [List.find?_eq_none]
    exact fun e he => by simpa using h.ne he c.fileName
  have hpre : (pre.map fun c => (place ++ [c.fileName], classNode c)).find?
      (fun e => e.1 == place ++ [c.fileName]) = none := by
    rw [List.find?_eq_none, List.forall_mem_map]
    intro c' hc'
    have hne : c'.fileName ≠ c.fileName := fun heq =>
      hnd.1 (heq ▸ List.mem_append_left _ (List.mem_map_of_mem hc'))
    simpa using hne
  rw [at?_of_ne_nil (by simp), withClasses, List.find?_append, hold, List.map_append,
    List.find?_append, hpre, List.map_cons, List.find?_cons]
  simp

/-! ### Dumping -/

/-- A new file goes behind the others. -/
theorem EmptyDir.put (h : d.EmptyDir dir place) {c : Class}
    (hc : ∀ c' ∈ cs, c'.fileName ≠ c.fileName) :
    (d.withClasses place cs).put (place ++ [c.fileName]) (classNode c) =
      d.withClasses place (cs ++ [c]) := by
  have hkeep : (d.withClasses place cs).nodes.filter (fun e => e.1 != place ++ [c.fileName]) =
      (d.withClasses place cs).nodes := by
    rw [List.filter_eq_self]
    intro e he
    rw [withClasses, List.mem_append, List.mem_map] at he
    obtain he | ⟨c', hc', rfl⟩ := he
    · simpa using h.ne he c.fileName
    · simpa using hc c' hc'
  rw [Disk.put]
  simp only [hkeep]
  simp [withClasses]

/-- The directory is where it was. -/
theorem EmptyDir.locate_withClasses (h : d.EmptyDir dir place) (cs : List Class) :
    (d.withClasses place cs).locate dir = .ok place ∧
      (d.withClasses place cs).at? place = some .dir :=
  ⟨(extends_withClasses d place cs).keepsDirs.locate h.1,
    (extends_withClasses d place cs).at? h.2.1⟩

/-- **The directory holds the files of the classes** and nothing else. -/
theorem EmptyDir.holdsFiles (h : d.EmptyDir dir place) (hnd : (cs.map Class.fileName).Nodup) :
    (d.withClasses place cs).HoldsFiles dir place (cs.map Class.fileName) where
  locate := (h.locate_withClasses cs).1
  isDir := (h.locate_withClasses cs).2
  nodup := hnd
  files := List.forall_mem_map.2 fun _ hc => ⟨_, _, h.at?_eq_some hnd hc⟩
  only := by
    intro e he hprefix
    rw [withClasses, List.mem_append, List.mem_map] at he
    obtain he | ⟨c, hc, rfl⟩ := he
    · exact .inl (h.2.2 e he hprefix)
    · exact .inr ⟨_, List.mem_map_of_mem hc, rfl⟩

end Disk

namespace Scene

open Disk

variable {s : Scene} {d : Disk} {dir : Text} {place : Place}

/-- **One class** is written next to the others. -/
theorem writeClass_eq_ok (h : d.EmptyDir dir place) {cs : List Class} {c : Class}
    (hclass : s.class? c.name = some c) (hname : Path.IsName c.fileName)
    (hc : ∀ c' ∈ cs, c'.fileName ≠ c.fileName) :
    s.writeClass c.name dir (d.withClasses place cs) =
      (.ok (classFile dir c), d.withClasses place (cs ++ [c])) := by
  obtain ⟨hlocate, hdir⟩ := h.locate_withClasses cs
  have hensure : (d.withClasses place cs).ensureDir dir = .ok (d.withClasses place cs) := by
    rw [ensureDir, holds, stat_eq_ok hlocate hdir]
    rfl
  have hwrite : (d.withClasses place cs).writeText (classFile dir c) c.text =
      .ok (d.withClasses place (cs ++ [c])) := by
    rw [writeText, write, c.classFile_eq, locate_join hlocate hdir hname]
    simp only [bind, Except.bind, h.at?_eq_none hc]
    rw [← h.put hc]
    rfl
  rw [writeClass, hclass]
  simp only [hensure, hwrite]

/-- **Several classes** are written next to each other, up to the last. -/
theorem writeClasses_eq_ok (h : d.EmptyDir dir place) {written cs : List Class}
    (hclass : ∀ c ∈ cs, s.class? c.name = some c) (hname : ∀ c ∈ cs, Path.IsName c.fileName)
    (hnd : ((written ++ cs).map Class.fileName).Nodup) :
    s.writeClasses dir cs (d.withClasses place written) =
      (.ok cs.length, d.withClasses place (written ++ cs)) := by
  induction cs generalizing written with
  | nil => rw [writeClasses, List.append_nil]; rfl
  | cons c cs ih =>
    rw [List.forall_mem_cons] at hclass hname
    have hnew : ∀ c' ∈ written, c'.fileName ≠ c.fileName := by
      intro c' hc' heq
      rw [List.map_append, List.map_cons, List.nodup_middle, List.nodup_cons] at hnd
      exact hnd.1 (heq ▸ List.mem_append_left _ (List.mem_map_of_mem hc'))
    have hrest : written ++ c :: cs = written ++ [c] ++ cs := by simp
    rw [hrest] at hnd ⊢
    rw [writeClasses, writeClass_eq_ok h hclass.1 hname.1 hnew]
    simp only [ih hclass.2 hname.2 hnd]
    rfl

/-- Every class of a scene is found under its name. -/
theorem class?_of_mem {c : Class} (hc : c ∈ s.classes) : s.class? c.name = some c := by
  obtain ⟨pre, post, hs⟩ := List.append_of_mem hc
  have hnd := s.nodup_names
  rw [hs, List.map_append, List.map_cons, List.nodup_middle, List.nodup_cons] at hnd
  rw [class?, List.find?_eq_some_iff_append]
  refine ⟨beq_self_eq_true _, pre, post, hs, fun c' hc' => ?_⟩
  have hne : c'.name ≠ c.name := fun heq =>
    hnd.1 (heq ▸ List.mem_append_left _ (List.mem_map_of_mem hc'))
  simpa using hne

/-- Different classes go to different files. -/
theorem nodup_fileNames (s : Scene) : (s.classes.map Class.fileName).Nodup := by
  rw [List.Nodup, List.pairwise_map]
  exact (List.pairwise_map.1 s.nodup_names).imp fun hne heq => hne (Class.fileName_inj heq)

/-- **What dumping leaves**: one file for each class. -/
theorem dumpDir_eq_ok (h : d.EmptyDir dir place)
    (hname : ∀ c ∈ s.classes, Path.IsName c.fileName) :
    s.dumpDir dir d = (.ok s.classes.length, d.withClasses place s.classes) := by
  have hnone : d.withClasses place [] = d := by simp [withClasses]
  have hnd : (([] ++ s.classes).map Class.fileName).Nodup := s.nodup_fileNames
  have hall := writeClasses_eq_ok h (fun c hc => class?_of_mem hc) hname hnd
  rwa [hnone] at hall

/-! ### Loading -/

/-- **A class is read back** from its file. -/
theorem loadFile_eq_ok (h : d.EmptyDir dir place) {cs : List Class}
    (hnd : (cs.map Class.fileName).Nodup) {c : Class} (hc : c ∈ cs) (hform : c.WellFormed)
    (hname : Path.IsName c.fileName) (s : Scene) :
    loadFile (d.withClasses place cs) s (classFile dir c) =
      .ok (c.normalized, s.add c.normalized) := by
  obtain ⟨hlocate, hdir⟩ := h.locate_withClasses cs
  have htext : (d.withClasses place cs).requireText (classFile dir c) = .ok c.text := by
    rw [requireText, readText, Disk.read, stat, c.classFile_eq, locate_join hlocate hdir hname]
    simp only [bind, Except.bind, h.at?_eq_some hnd hc]
    rfl
  rw [loadFile, htext]
  simp only [bind, Except.bind, readFileText, hform.read_text]
  rfl

/-- **No class is lost** when different ones are added one after the other. -/
theorem classes_foldl_add {cs : List Class} (hnd : (cs.map Class.name).Nodup) :
    (cs.foldl add empty).classes.Perm cs := by
  have htrans : Std.TransCmp compareClasses := transCmp_on Class.name ClassName.compare
  have hne : cs.Pairwise fun a b => compareClasses a b ≠ .eq :=
    (List.pairwise_map.1 hnd).imp fun hne heq => hne (ClassName.eq_of_compare heq)
  have hadd : ∀ s : Scene, (cs.foldl add s).classes =
      cs.foldl (fun sorted c => insertSorted compareClasses c sorted) s.classes := by
    intro s
    clear hnd hne
    induction cs generalizing s with
    | nil => rfl
    | cons c cs ih => exact ih (s.add c)
  rw [hadd]
  exact perm_sortedOfList hne

/-- Loading files one after the other. -/
theorem foldlM_loadFile (h : d.EmptyDir dir place) {cs : List Class}
    (hnd : (cs.map Class.fileName).Nodup) (hform : ∀ c ∈ cs, c.WellFormed)
    (hname : ∀ c ∈ cs, Path.IsName c.fileName) {loaded : List Class} (hsub : loaded ⊆ cs)
    (s : Scene) :
    (loaded.map (classFile dir)).foldlM
        (fun s file => return (← loadFile (d.withClasses place cs) s file).2) s =
      (.ok ((loaded.map Class.normalized).foldl add s) : Except Error Scene) := by
  induction loaded generalizing s with
  | nil => rfl
  | cons c loaded ih =>
    rw [List.cons_subset] at hsub
    rw [List.map_cons, List.foldlM_cons,
      loadFile_eq_ok h hnd hsub.1 (hform c hsub.1) (hname c hsub.1)]
    exact ih hsub.2 (s.add c.normalized)

/-- The classes of a scene are determined by which they are. -/
theorem classes_eq_of_perm {s : Scene} {cs : List Class} (hcs : Increasing compareClasses cs)
    (h : s.classes.Perm cs) : s.classes = cs := by
  have htrans : Std.TransCmp compareClasses := transCmp_on Class.name ClassName.compare
  have hs : Increasing compareClasses s.classes := List.pairwise_map.1 s.ordered
  exact hs.eq_of_perm hcs h

/-- **Loading gives back what was dumped**: a scene of lexically well-formed classes that is
dumped into an empty directory is loaded from there with every class as its text is read, whatever
listing finds the files. -/
theorem exists_loadDir_dumpDir (s : Scene) {list : Listing} (hlist : list.FindsFiles)
    (hform : ∀ c ∈ s.classes, c.WellFormed) (hfits : ∀ c ∈ s.classes, c.FileFits)
    (h : d.EmptyDir dir place) :
    ∃ d' s', s.dumpDir dir d = (.ok s.classes.length, d') ∧ loadDirWith list d' dir = .ok s' ∧
      s'.classes = s.classes.map Class.normalized := by
  have hname : ∀ c ∈ s.classes, Path.IsName c.fileName :=
    fun c hc => Class.isName_fileName (hform c hc).name (hfits c hc)
  have hnd := s.nodup_fileNames
  -- The listing may find the files in another order than that of the classes.
  obtain ⟨files, hfound, hfiles⟩ := hlist (h.holdsFiles hnd)
  obtain ⟨loaded, rfl, hperm⟩ : Relation.Comp (· = List.map (classFile dir) ·) List.Perm files
      s.classes := by
    rw [List.eq_map_comp_perm]
    rwa [List.map_map] at hfiles
  have hsub : loaded ⊆ s.classes := hperm.subset
  have hfilter : (loaded.map (classFile dir)).filter
      (fun file => Path.hasExtension file fileExtension) = loaded.map (classFile dir) := by
    rw [List.filter_eq_self, List.forall_mem_map]
    exact fun c hc => Class.hasExtension_classFile h.ne_nil (hname c (hsub hc))
      (hform c (hsub hc)).name.ne_nil
  refine ⟨_, (loaded.map Class.normalized).foldl add empty, dumpDir_eq_ok h hname, ?_, ?_⟩
  · rw [loadDirWith, hfound]
    simp only [bind, Except.bind, hfilter]
    exact foldlM_loadFile h hnd hform hname hsub empty
  · have hnames : ∀ cs : List Class, (cs.map Class.normalized).map Class.name = cs.map Class.name :=
      fun cs => by rw [List.map_map]; rfl
    have hndNames : ((loaded.map Class.normalized).map Class.name).Nodup := by
      rw [hnames]
      exact (hperm.map Class.name).nodup_iff.2 s.nodup_names
    have hordered :
        Increasing ClassName.compare ((s.classes.map Class.normalized).map Class.name) := by
      rw [hnames]
      exact s.ordered
    exact classes_eq_of_perm (List.pairwise_map.1 hordered)
      ((classes_foldl_add hndNames).trans (hperm.map Class.normalized))

end Scene

end Weaver
