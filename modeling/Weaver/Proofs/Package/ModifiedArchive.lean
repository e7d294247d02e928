import Weaver.Package.Archive
import Weaver.Proofs.Files.FileNames
import Weaver.Proofs.Package.Protocol

/-!
# Modified Archives

The changed copy of an archive stands next to it, under a name of its own. What has to be shown is
that the name is new: it is longer than the old one, and it is made in one of two forms, behind
the stem of a name with an extension or at the end of a name without one. A name of one form is no
name of the other, and the old name can be read off either, so that the copies of two archives
never meet.

Names are compared, not only paths: on a disk two paths may lead to the same place, but then the
place is called like both.

## Main definitions

* `Path.modifiedFileName`: the file name of the changed copy.
* `Path.ModifiedArchiveLaw`: **the law** of changed copies.

## Main results

* `Path.cutName_modifiedFileName`: the stem grows, and the extension stays.
* `Path.modifiedFileName_injective`: **different names, different copies**.
* `Path.modifiedArchive_eq`: where the copy stands.
* `Disk.locate_modified_ne`: it is another place.
* `Path.modifiedArchiveLaw`.
-/

namespace Weaver

namespace Path

/-! ### Names of copies -/

/-- What is put behind the stem. -/
def modifiedMark : Text :=
  "_modified".toList

/-- The file name of the changed copy of an archive with that file name. -/
def modifiedFileName (name : Text) : Text :=
  modifiedName (cutName name).1 (cutName name).2

/-- The mark stands in front of the extension. -/
theorem modifiedFileName_append {stem ext : Text} (hstem : stem ≠ []) (hext : '.' ∉ ext) :
    modifiedFileName (stem ++ '.' :: ext) = (stem ++ modifiedMark) ++ '.' :: ext := by
  rw [modifiedFileName, cutName_append hstem hext]
  rfl

/-- Without an extension the mark stands at the end. -/
theorem modifiedFileName_of_tail {name : Text} (h : '.' ∉ name.tail) :
    modifiedFileName name = name ++ modifiedMark := by
  rw [modifiedFileName, cutName_of_tail h]
  rfl

/-- The name of the copy is longer by the mark. -/
theorem length_modifiedFileName (name : Text) :
    (modifiedFileName name).length = name.length + modifiedMark.length := by
  obtain ⟨stem, ext, rfl, hstem, hext⟩ | htail := cutName_cases name
  · rw [modifiedFileName_append hstem hext]
    simp only [List.length_append, List.length_cons]
    omega
  · rw [modifiedFileName_of_tail htail, List.length_append]

/-- The name of the copy is made of the name and the mark. -/
theorem mem_modifiedFileName {c : Char} {name : Text} (h : c ∈ modifiedFileName name) :
    c ∈ name ∨ c ∈ modifiedMark := by
  obtain ⟨stem, ext, rfl, hstem, hext⟩ | htail := cutName_cases name
  · rw [modifiedFileName_append hstem hext, List.mem_append, List.mem_append] at h
    obtain (hc | hc) | hc := h
    · exact .inl (List.mem_append_left _ hc)
    · exact .inr hc
    · exact .inl (List.mem_append_right _ hc)
  · rwa [modifiedFileName_of_tail htail, List.mem_append] at h

/-- **The stem grows, and the extension stays**: the copy has the form of the original. -/
theorem cutName_modifiedFileName {name : Text} (hne : name ≠ []) :
    cutName (modifiedFileName name) = ((cutName name).1 ++ modifiedMark, (cutName name).2) := by
  obtain ⟨stem, ext, rfl, hstem, hext⟩ | htail := cutName_cases name
  · have hlonger : stem ++ modifiedMark ≠ [] := fun h => hstem (List.append_eq_nil_iff.1 h).1
    rw [modifiedFileName_append hstem hext, cutName_append hstem hext, cutName_append hlonger hext]
  · have htail' : '.' ∉ (name ++ modifiedMark).tail := by
      rw [List.tail_append_of_ne_nil hne, List.mem_append]
      rintro (hdot | hdot)
      · exact htail hdot
      · exact absurd hdot (by decide)
    rw [modifiedFileName_of_tail htail, cutName_of_tail htail, cutName_of_tail htail']

/-- A name can be put together again from its stem and its extension. -/
theorem cutName_injective {name name' : Text} (h : cutName name = cutName name') :
    name = name' := by
  have hjoin : ∀ name, name =
      (cutName name).1 ++ (cutName name).2.elim [] fun ext => '.' :: ext := by
    intro name
    obtain ⟨stem, ext, rfl, hstem, hext⟩ | htail := cutName_cases name
    · rw [cutName_append hstem hext]
      rfl
    · rw [cutName_of_tail htail]
      exact (List.append_nil _).symm
  rw [hjoin name, h, ← hjoin name']

/-- **Different names, different copies.** -/
theorem modifiedFileName_injective {name name' : Text} (hne : name ≠ []) (hne' : name' ≠ [])
    (h : modifiedFileName name = modifiedFileName name') : name = name' := by
  have hcut := congrArg cutName h
  rw [cutName_modifiedFileName hne, cutName_modifiedFileName hne', Prod.mk.injEq] at hcut
  exact cutName_injective (Prod.ext (List.append_cancel_right hcut.1) hcut.2)

/-! ### Where the copy stands -/

section

variable {p name : Text} (h : fileName? p = some name)
include h

/-- A file name is not empty. -/
theorem ne_nil_of_fileName? : name ≠ [] := by
  obtain ⟨⟨before, hcut⟩, -⟩ := fileName?_eq_some.1 h
  exact (counts_iff.1 (cut?_spec hcut).2).1

/-- The copy has another file name in the same directory. -/
theorem modifiedArchive_eq : ∃ before, cut? p = some (before, name) ∧
    modifiedArchive p = .ok (join before (modifiedFileName name)) ∧
      cut? (join before (modifiedFileName name)) = some (before, modifiedFileName name) := by
  obtain ⟨⟨before, hcut⟩, -⟩ := fileName?_eq_some.1 h
  have hlength := length_modifiedFileName name
  have hslash : '/' ∉ modifiedFileName name := by
    intro hmem
    obtain hname | hmark := mem_modifiedFileName hmem
    · exact (cut?_spec hcut).1 hname
    · exact absurd hmark (by decide)
  have hcounts : counts (modifiedFileName name) = true := by
    rw [counts_iff]
    constructor
    · intro hnil
      rw [hnil] at hlength
      exact absurd hlength.symm (Nat.succ_ne_zero _)
    · intro hdot
      rw [hdot] at hlength
      exact absurd hlength.symm (Nat.succ_succ_ne_one _)
  refine ⟨before, hcut, ?_, cut?_join hslash hcounts hcut⟩
  have hwith : withFileName p (modifiedFileName name) = join before (modifiedFileName name) := by
    rw [withFileName, h, hcut]
  rw [modifiedArchive, stem?, extension?, h, ← hwith]
  rfl

/-- **The copy of a path with a file name** has a longer file name, the same directory and the
same extension. -/
theorem exists_modifiedArchive : ∃ out, modifiedArchive p = .ok out ∧
    fileName? out = some (modifiedFileName name) ∧ modifiedFileName name ≠ name ∧
      parent? out = parent? p ∧ extension? out = extension? p := by
  obtain ⟨before, hcut, hout, hcut'⟩ := modifiedArchive_eq h
  have hlength := length_modifiedFileName name
  have hmark : modifiedMark.length = 9 := rfl
  have hname : fileName? (join before (modifiedFileName name)) = some (modifiedFileName name) := by
    refine fileName?_eq_some.2 ⟨⟨before, hcut'⟩, fun hdots => ?_⟩
    have htwo : (modifiedFileName name).length = 2 := by rw [hdots]; rfl
    omega
  refine ⟨_, hout, hname, fun heq => ?_, ?_, ?_⟩
  · rw [heq] at hlength
    omega
  · rw [parent?, parent?, hcut, hcut']
  · rw [extension?, extension?, h, hname, Option.bind_some, Option.bind_some,
      cutName_modifiedFileName (ne_nil_of_fileName? h)]

end

/-- **Only a path without a file name** has no copy. -/
theorem modifiedArchive_of_none {p : Text} (h : fileName? p = none) :
    modifiedArchive p = .error (.badPath p) := by
  rw [modifiedArchive, stem?, h]
  rfl

/-- **The copy has a file name of its own.** -/
theorem fileName?_of_modifiedArchive {p out : Text} (h : modifiedArchive p = .ok out) :
    ∃ name, fileName? p = some name ∧ fileName? out = some (modifiedFileName name) ∧
      modifiedFileName name ≠ name := by
  cases hname : fileName? p with
  | none =>
    rw [modifiedArchive_of_none hname] at h
    cases h
  | some name =>
    obtain ⟨out', hout', hcopy, hne, -⟩ := exists_modifiedArchive hname
    obtain rfl := Except.ok.inj (hout'.symm.trans h)
    exact ⟨name, rfl, hcopy, hne⟩

end Path

/-! ### Places -/

/-- **The copy is at another place**, on every disk. -/
theorem Disk.locate_modified_ne {d : Disk} {p out : Text} (h : Path.modifiedArchive p = .ok out)
    {place place' : Place} (hplace : d.locate p = .ok place) (hplace' : d.locate out = .ok place') :
    place' ≠ place := by
  obtain ⟨name, hname, hcopy, hne⟩ := Path.fileName?_of_modifiedArchive h
  rintro rfl
  have hlast := Disk.getLast?_of_locate hplace hname
  rw [Disk.getLast?_of_locate hplace' hcopy] at hlast
  exact hne (Option.some.inj hlast)

namespace Archive

variable {p entry out : Text} {data : Data} {d d' : Disk}

/-- Adding a file to an archive reads the archive and writes its copy. -/
theorem addFile_eq_ok (h : addFile p entry data d = .ok (out, d')) :
    Path.modifiedArchive p = .ok out ∧ ∃ entries, read d p = .ok entries ∧
      d.write out (.archive (setEntry entry data entries)) = .ok d' := by
  rw [addFile] at h
  cases hout : Path.modifiedArchive p with
  | error why =>
    rw [hout] at h
    cases h
  | ok out' =>
    cases hread : read d p with
    | error why =>
      rw [hout, hread] at h
      cases h
    | ok entries =>
      rw [hout, hread] at h
      simp only [bind, Except.bind] at h
      split at h
      next d'' hwrite =>
        obtain ⟨rfl, rfl⟩ := Prod.mk.inj (Except.ok.inj h)
        exact ⟨rfl, entries, rfl, hwrite⟩
      · cases h

/-- **Only the copy is written**, and the archive is still there to be read. -/
theorem addFile_frame (h : addFile p entry data d = .ok (out, d')) :
    ∃ place place', d.locate p = .ok place ∧ d.locate out = .ok place' ∧ place' ≠ place ∧
      (∀ other, other ≠ place' → d'.at? other = d.at? other) ∧ d'.read p = d.read p := by
  obtain ⟨hout, entries, hread, hwrite⟩ := addFile_eq_ok h
  obtain ⟨place', executable, hplace', hfile, rfl⟩ := Disk.write_eq_ok hwrite
  have hroot : place' ≠ [] := by
    rintro rfl
    exact hfile rfl
  cases hplace : d.locate p with
  | error fault =>
    rw [read, Disk.read, Disk.stat, hplace] at hread
    cases hread
  | ok place =>
    have hne := Disk.locate_modified_ne hout hplace hplace'
    have hframe : ∀ other, other ≠ place' →
        (d.put place' (.file (.archive (setEntry entry data entries)) executable)).at? other =
          d.at? other := by
      intro other hother
      rw [Disk.at?_put hroot, if_neg hother]
    refine ⟨place, place', rfl, hplace', hne, hframe, ?_⟩
    rw [Disk.read, Disk.read, Disk.stat, Disk.stat, hplace,
      (Disk.keepsDirs_put hroot hfile _).locate hplace]
    simp only [bind, Except.bind, hframe place (Ne.symm hne)]

end Archive

/-! ### Commands -/

/-- The commands of a run that rebuilds an archive read it, or write its copy. -/
theorem Packager.Rebuilds.command {σ : Type} {p : Packager} {archive : Text}
    {rewrite : Text → Except Error Text} {entries : List (Entry σ)} {r : Except Error Text}
    (h : p.Rebuilds archive rewrite entries r) {e : Entry σ} (he : e ∈ entries)
    {command : Text × List Text} (hcommand : e.operation.command? = some command) :
    ∃ w, command = (p.program, p.decodeArgs archive w) ∨
      ∃ out, Path.modifiedArchive archive = .ok out ∧ command = (p.program, p.buildArgs w out) := by
  cases h with
  | notSetUp hdir hop =>
    rw [List.mem_singleton.1 he, hop] at hcommand
    cases hcommand
  | @ended before work after w r hset hwork hclean =>
    have hmem : command ∈ (before ++ (work ++ after)).filterMap fun e => e.operation.command? :=
      List.mem_filterMap.2 ⟨e, he, hcommand⟩
    rw [commands_eq_of_ended hset hclean] at hmem
    have hmem := hwork.commands_prefix.subset hmem
    rw [commandsFrom_firstStage] at hmem
    refine ⟨w.path, (List.mem_cons.1 hmem).imp_right fun hbuilder => ?_⟩
    obtain ⟨out, hout, rfl⟩ := List.mem_map.1 hbuilder
    refine ⟨out, ?_, rfl⟩
    cases hmodified : Path.modifiedArchive archive with
    | error why =>
      rw [hmodified] at hout
      cases hout
    | ok out' =>
      rw [hmodified] at hout
      exact congrArg _ (List.mem_singleton.1 hout).symm

/-! ### The law -/

/-- **The law of changed copies** of archives at the path `p`. -/
structure Path.ModifiedArchiveLaw (p : Text) : Prop where
  /-- A path without a file name is the only failure. -/
  fails : modifiedArchive p = .error (.badPath p) ↔ fileName? p = none
  error : ∀ why, modifiedArchive p = .error why → why = .badPath p
  /-- The copy has another file name, in the same directory and with the same extension. -/
  copy : ∀ name, fileName? p = some name → ∃ out new, modifiedArchive p = .ok out ∧
    fileName? out = some new ∧ new ≠ name ∧ out ≠ p ∧ parent? out = parent? p ∧
      extension? out = extension? p
  /-- Another file name leads to another one of the copy. -/
  distinct : ∀ q name name', fileName? p = some name → fileName? q = some name' → name' ≠ name →
    ∀ out out', modifiedArchive p = .ok out → modifiedArchive q = .ok out' →
      out' ≠ out ∧ fileName? out' ≠ fileName? out
  /-- On no disk the copy is at the place of the archive. -/
  place : ∀ (d : Disk) out, modifiedArchive p = .ok out → ∀ place place',
    d.locate p = .ok place → d.locate out = .ok place' → place' ≠ place
  /-- Adding a file to an archive writes the copy and nothing else, and the archive is still
  there to be read. -/
  addFile : ∀ entry data d out d', Archive.addFile p entry data d = .ok (out, d') →
    modifiedArchive p = .ok out ∧ d'.read p = d.read p ∧
      ∃ place, d.locate out = .ok place ∧ ∀ other, other ≠ place → d'.at? other = d.at? other
  /-- Rebuilding an archive reads it and writes the copy: the packed archive of every command is
  the copy, and so is that of a run that succeeds. -/
  rebuild : ∀ {σ : Type} (packager : Packager) (m : Machine σ) (engine : PatternEngine)
      (c : ManifestChange) (s : σ),
    let run := c.run packager m.journaled engine p ⟨s, []⟩
    (∀ e ∈ run.2.entries, ∀ command, e.operation.command? = some command →
      ∃ w, command = (packager.program, packager.decodeArgs p w) ∨
        ∃ out, modifiedArchive p = .ok out ∧
          command = (packager.program, packager.buildArgs w out)) ∧
      ∀ out, run.1 = .ok out → modifiedArchive p = .ok out

/-- **The changed copies of every archive obey the law.** -/
theorem Path.modifiedArchiveLaw (p : Text) : ModifiedArchiveLaw p where
  fails := by
    constructor
    · intro h
      cases hname : fileName? p with
      | none => rfl
      | some name =>
        obtain ⟨out, hout, -⟩ := exists_modifiedArchive hname
        rw [hout] at h
        cases h
    · exact modifiedArchive_of_none
  error why h := by
    cases hname : fileName? p with
    | none =>
      rw [modifiedArchive_of_none hname] at h
      exact (Except.error.inj h).symm
    | some name =>
      obtain ⟨out, hout, -⟩ := exists_modifiedArchive hname
      rw [hout] at h
      cases h
  copy name h := by
    obtain ⟨out, hout, hnew, hne, hparent, hext⟩ := exists_modifiedArchive h
    refine ⟨out, _, hout, hnew, hne, ?_, hparent, hext⟩
    rintro rfl
    exact hne (Option.some.inj (hnew.symm.trans h))
  distinct q name name' hp hq hne out out' hout hout' := by
    obtain ⟨_, hp', hcopy, -⟩ := fileName?_of_modifiedArchive hout
    obtain ⟨_, hq', hcopy', -⟩ := fileName?_of_modifiedArchive hout'
    obtain rfl := Option.some.inj (hp.symm.trans hp')
    obtain rfl := Option.some.inj (hq.symm.trans hq')
    have hnames : fileName? out' ≠ fileName? out := by
      rw [hcopy, hcopy']
      intro h
      exact hne (modifiedFileName_injective (ne_nil_of_fileName? hq) (ne_nil_of_fileName? hp)
        (Option.some.inj h))
    exact ⟨fun h => hnames (congrArg fileName? h), hnames⟩
  place d out hout place place' hplace hplace' := Disk.locate_modified_ne hout hplace hplace'
  addFile entry data d out d' h := by
    obtain ⟨_, place, -, hplace, -, hframe, hread⟩ := Archive.addFile_frame h
    exact ⟨(Archive.addFile_eq_ok h).1, hread, place, hplace, hframe⟩
  rebuild {σ} packager m engine c s := by
    obtain ⟨entries, hrun, -, hrebuilds⟩ := packager.keeps_rebuild m p (c.rewrite engine) s []
    rw [c.run_eq_rebuild, hrun, List.nil_append]
    refine ⟨fun e he command hcommand => hrebuilds.command he hcommand, fun out hout => ?_⟩
    dsimp only at hout
    generalize (packager.rebuild m p (c.rewrite engine) s).1 = r at hrebuilds hout
    cases hrebuilds with
    | notSetUp => cases hout
    | ended _ hwork _ =>
      have hnames := (hwork.success hout).1
      rw [Packager.firstStage] at hnames
      split at hnames <;> exact hnames

/-- A dot in front begins no extension, and a dot at the end begins an empty one. -/
example : (Path.modifiedArchive "out/.apk".toList).toOption = some "out/.apk_modified".toList ∧
    (Path.modifiedArchive "out/a.b.".toList).toOption = some "out/a.b_modified.".toList := by
  decide

end Weaver
