import Weaver.Proofs.Jimple.TypeImage
import Weaver.Proofs.Pass.SubstitutionFrame

/-!
# Which Constructor a Call Goes to

A substitution finds the constructor of the new class by its written form: it replaces the name of
the old class in the reference to the old constructor and reads what comes out. So the types of the
parameters change wherever the name of the old class stands in them, also as a part of other names.
If it stands there as a whole name only, the constructor is the image of the old one: its
parameters are those of the old one, with the new class in place of the old one.

The locals of the old class are retyped, and so each local has the image of its type. Only the
locals that are arrays of the old class are left behind: they keep their type, although in the
image of a constructor it is that of an array of the new class.

## Main definitions

* `Substitution.Constructs`: the calls that may go over.
* `Substitution.ConstructorLaw`: the law.

## Main results

* `Body.replaceType_constructor`: **a constructor call goes over to the substituted constructor**,
  which is the image of the old one exactly if all names are whole.
-/

namespace Weaver

namespace Substitution

/-- A special call of a constructor of the class on one of the given locals. The reference to the
constructor is one that can be read. -/
structure Constructs (old : ClassName) (retyped : List Text) (e : Invocation) : Prop where
  kind : e.kind = .special
  cls : e.method.cls = old
  name : e.method.sig.name = constructorName
  base : ∃ x ∈ e.base, x ∈ retyped
  read : ∃ s, MethodRef.read s = .ok e.method

/-- The call goes to the constructor of that class and signature if the scene declares it. -/
def goesTo (scene : Scene) (cls : ClassName) (sig : Signature) (e : Invocation) : Stmt :=
  .invoke (if (scene.method? ⟨cls, sig⟩).isSome then { e with method := ⟨cls, sig⟩ } else e)

/-- **What a substitution makes of constructor calls** on retyped locals. -/
structure ConstructorLaw (scene : Scene) (old new : ClassName) (b : Body)
    (report : SubstitutionReport) (b' : Body) : Prop where
  renamed_eq : report.renamed = (namesOf b old.chars).map fun n => (n, replacedName n)
  /-- The call goes to the constructor whose written form has the new name wherever the old one
  stands, or it stays. -/
  substituted : ∀ {i : Nat} {e : Invocation},
    (b.statements.map (renamedStmt report.renamed))[i]? = some (.invoke e) →
    Constructs old (report.renamed.map Prod.snd) e →
      b'.statements[i]? = some (goesTo scene new (e.method.sig.substituted old new) e)
  /-- If the old name stands there as a whole name only, the call goes to the image of the
  constructor, or it stays. -/
  image : ∀ {i : Nat} {e : Invocation},
    (b.statements.map (renamedStmt report.renamed))[i]? = some (.invoke e) →
    Constructs old (report.renamed.map Prod.snd) e → e.method.sig.NamesWhole old →
      b'.statements[i]? = some (goesTo scene new (e.method.sig.image old new) e)
  /-- Otherwise the call does not go to the image. -/
  only_image : ∀ {i : Nat} {e : Invocation},
    (b.statements.map (renamedStmt report.renamed))[i]? = some (.invoke e) →
    Constructs old (report.renamed.map Prod.snd) e →
    b'.statements[i]? = some (.invoke { e with method := ⟨new, e.method.sig.image old new⟩ }) →
      e.method.sig.NamesWhole old
  /-- A local has the image of its type, unless this is an array of the old class. -/
  local_image : ∀ l ∈ b.locals, (l.ty.base = .ref old → l.ty = .ref old) →
    ∃ l' ∈ b'.locals, l' = retypedLocal new.chars (namesOf b old.chars) l ∧
      l'.ty = l.ty.image old new

variable {scene : Scene} {old new : ClassName} {retyped : List Text} {e : Invocation}

/-- A constructor call on the old class is a special call on it. -/
theorem Constructs.special? (h : Constructs old retyped e) :
    (Stmt.invoke e).special? old.chars = some e := by
  rw [Stmt.special?, if_pos ⟨h.kind, congrArg ClassName.chars h.cls⟩]

/-- The substitution in the text of the reference. -/
theorem Constructs.read_replaceAll (h : Constructs old retyped e) (hold : old.WellFormed)
    (hnew : new.WellFormed) :
    MethodRef.read (Text.replaceAll old.chars new.chars e.method.text) =
      .ok ⟨new, e.method.sig.substituted old new⟩ := by
  obtain ⟨s, hs⟩ := h.read
  have href : e.method = ⟨old, e.method.sig⟩ := by rw [← h.cls]
  rw [href]
  exact MethodRef.read_replaceAll hold hnew (MethodRef.isReadable_of_read hs) h.name

/-- The substitution in the text is that in the types exactly if the old class is named whole. -/
theorem Constructs.substituted_eq_image_iff (h : Constructs old retyped e) (hold : old.WellFormed)
    (hnew : new.WellFormed) (hne : old ≠ new) :
    e.method.sig.substituted old new = e.method.sig.image old new ↔ e.method.sig.NamesWhole old :=
  let ⟨_, hs⟩ := h.read
  Signature.substituted_eq_image_iff hold hnew hne (MethodRef.isReadable_of_read hs)

/-- What takes the place of a constructor call. -/
theorem Constructs.getD_replacement? (h : Constructs old retyped e) (hold : old.WellFormed)
    (hnew : new.WellFormed) (rest : List Stmt) :
    (replacement? scene old.chars new.chars retyped (.invoke e) rest).getD (.invoke e) =
      goesTo scene new (e.method.sig.substituted old new) e := by
  have hbase : e.base.any (List.elem · retyped) = true := by
    simpa [Option.any_eq_true] using h.base
  rw [replacement?, h.special?]
  dsimp only
  rw [redirection?, redirected?, h.read_replaceAll hold hnew, goesTo]
  dsimp only
  split <;> rfl

/-- A call that stays goes to another class than the new one. -/
theorem eq_of_goesTo (hne : e.method.cls ≠ new) {sig sig' : Signature}
    (h : goesTo scene new sig e = .invoke { e with method := ⟨new, sig'⟩ }) : sig = sig' := by
  have hmethod := congrArg Call.method (Stmt.invoke.inj h)
  split at hmethod
  · exact congrArg MethodRef.sig hmethod
  · exact absurd (congrArg MethodRef.cls hmethod) hne

/-- Retyping a local gives it the image of its type, or leaves an array alone. -/
theorem ty_retypedLocal {b : Body} (hnd : b.names.Nodup) {l : Local} (hl : l ∈ b.locals)
    (hbase : l.ty.base = .ref old → l.ty = .ref old) :
    (retypedLocal new.chars (namesOf b old.chars) l).ty = l.ty.image old new := by
  have hmem : (namesOf b old.chars).contains l.name = true ↔ l.ty = .ref old :=
    List.contains_iff_mem.trans ((name_mem_namesOf_iff hnd hl).trans Ty.isClass_iff)
  rw [retypedLocal]
  by_cases hty : l.ty = .ref old
  · rw [if_pos (hmem.2 hty), hty]
    exact (if_pos rfl).symm
  · rw [if_neg (mt hmem.1 hty)]
    exact (Ty.image_of_base_ne fun h => hty (hbase h)).symm

/-- Every statement is replaced as the look ahead says, once the locals are renamed. -/
theorem statements_of_replaceType {b b' : Body} (hb : b.Sound) {scene : Scene} {old new : Text}
    {report : SubstitutionReport} (h : b.replaceType scene old new = (.ok report, b')) {i : Nat}
    {s : Stmt} (hs : (b.statements.map (renamedStmt report.renamed))[i]? = some s) :
    ∃ rest, b'.statements[i]? =
      some ((replacement? scene old new (report.renamed.map Prod.snd) s rest).getD s) := by
  obtain ⟨b₁, n, hretype, hcommit, -⟩ := replaceType_eq_ok h
  obtain ⟨-, hids, hnext, hstmts⟩ := retypeAll_eq_ok hretype
  obtain ⟨_, b₂, hscan, -, hafter⟩ := commit_scan scene old new (report.renamed.map Prod.snd)
    (b := b₁) (hids ▸ hb.nodup_ids) (hids ▸ hnext ▸ hb.ids_lt)
  obtain rfl : b' = b₂ := congrArg Prod.snd (hcommit.symm.trans hscan)
  rw [← hstmts] at hs
  exact ⟨_, hafter hs⟩

end Substitution

/-- **A constructor call goes over to the substituted constructor**, if the scene declares it, and
this is the image of the old constructor exactly if the name of the old class stands in it as a
whole name only. -/
theorem Body.replaceType_constructor {b b' : Body} {scene : Scene} {old new : ClassName}
    {report : SubstitutionReport} (hold : old.WellFormed) (hnew : new.WellFormed) (hne : old ≠ new)
    (hb : b.Sound) (h : b.replaceType scene old.chars new.chars = (.ok report, b')) :
    Substitution.ConstructorLaw scene old new b report b' := by
  obtain ⟨b₁, n, hretype, -⟩ := Substitution.replaceType_eq_ok h
  obtain ⟨hrenamed, -⟩ := Substitution.retypeAll_eq_ok hretype
  have hlocals := Substitution.locals_of_replaceType hb.nodup_names h
  have hgoes : ∀ {i : Nat} {e : Invocation},
      (b.statements.map (Substitution.renamedStmt report.renamed))[i]? = some (.invoke e) →
      Substitution.Constructs old (report.renamed.map Prod.snd) e → b'.statements[i]? =
        some (Substitution.goesTo scene new (e.method.sig.substituted old new) e) := by
    intro i e hi he
    obtain ⟨rest, hafter⟩ := Substitution.statements_of_replaceType hb h hi
    rw [hafter, he.getD_replacement? hold hnew]
  refine ⟨hrenamed, hgoes, fun hi he hwhole => ?_, fun hi he htarget => ?_, fun l hl hbase => ?_⟩
  · rw [hgoes hi he, (he.substituted_eq_image_iff hold hnew hne).2 hwhole]
  · rw [hgoes hi he, Option.some.injEq] at htarget
    exact (he.substituted_eq_image_iff hold hnew hne).1
      (Substitution.eq_of_goesTo (he.cls ▸ hne) htarget)
  · exact ⟨_, hlocals ▸ List.mem_map_of_mem hl, rfl,
      Substitution.ty_retypedLocal hb.nodup_names hl hbase⟩

namespace SampleSubstitution

/-- The old class. -/
def oldClass : ClassName :=
  ⟨"a.Old".toList⟩

/-- The new class. -/
def newClass : ClassName :=
  ⟨"b.New".toList⟩

theorem wellFormed_oldClass : oldClass.WellFormed :=
  ⟨by decide, ⟨'a', ".Old".toList, rfl, by decide, by decide⟩, by decide⟩

theorem wellFormed_newClass : newClass.WellFormed :=
  ⟨by decide, ⟨'b', ".New".toList, rfl, by decide, by decide⟩, by decide⟩

/-- The second constructor call of the body, with its local renamed. -/
def numbered : Invocation :=
  { kind := .special, base := some "replaced_y".toList, args := [.const (.int 1)]
    method := ⟨oldClass, constructor [.int]⟩ }

/-- The call with a number is a constructor call on a retyped local. -/
theorem constructs_numbered : Substitution.Constructs oldClass retyped numbered where
  kind := rfl
  cls := rfl
  name := rfl
  base := ⟨"replaced_y".toList, rfl, by decide⟩
  read := ⟨_, MethodRef.read_text_of_isReadable wellFormed_oldClass
    ⟨⟨by decide, by decide⟩, Text.isTight_of_forall (by decide) (by decide),
      List.forall_mem_singleton.2 ⟨by decide, by decide⟩⟩⟩

/-- The law for two objects whose allocations are interleaved. -/
theorem replaceType_constructor_interleaved :
    oldClass.WellFormed ∧ newClass.WellFormed ∧ oldClass ≠ newClass ∧ body.Sound ∧
      ∃ report b', body.replaceType scene oldClass.chars newClass.chars = (.ok report, b') ∧
        Substitution.ConstructorLaw scene oldClass newClass body report b' ∧
        Substitution.Constructs oldClass (report.renamed.map Prod.snd) numbered ∧
        numbered.method.sig.NamesWhole oldClass ∧
        b'.statements[3]? =
          some (.invoke { numbered with method := ⟨newClass, constructor [.int]⟩ }) := by
  have hne : oldClass ≠ newClass := by decide
  have hwhole : numbered.method.sig.NamesWhole oldClass :=
    ⟨by decide, by decide, List.forall_mem_singleton.2 (by decide)⟩
  refine ⟨wellFormed_oldClass, wellFormed_newClass, hne, sound_body, ?_⟩
  have hok : (body.replaceType scene oldClass.chars newClass.chars).1.isOk = true := by
    decide +kernel
  obtain ⟨report, b', hrun⟩ := Substitution.exists_of_isOk hok
  have hlaw := Body.replaceType_constructor wellFormed_oldClass wellFormed_newClass hne sound_body
    hrun
  have hconstructs : Substitution.Constructs oldClass (report.renamed.map Prod.snd) numbered := by
    rw [hlaw.renamed_eq]
    exact constructs_numbered
  have hcall : (body.statements.map (Substitution.renamedStmt report.renamed))[3]? =
      some (.invoke numbered) := by
    rw [hlaw.renamed_eq]
    rfl
  exact ⟨report, b', hrun, hlaw, hconstructs, hwhole, hlaw.image hcall hconstructs hwhole⟩

/-- A class whose name begins with that of the old one. -/
def helper : Ty :=
  .ref ⟨"a.OldHelper".toList⟩

/-- Objects of the old class that are made from a helper and from an array of the old class. -/
def overlapping : Body :=
  { body with
    locals := [⟨"x".toList, .ref oldClass⟩, ⟨"y".toList, .ref oldClass⟩, ⟨"h".toList, helper⟩,
      ⟨"olds".toList, .array (.ref oldClass)⟩]
    stmts := [
      (⟨0⟩, allocate "x".toList),
      (⟨1⟩, construct "x".toList [helper] [.var "h".toList]),
      (⟨2⟩, allocate "y".toList),
      (⟨3⟩, construct "y".toList [.array (.ref oldClass)] [.var "olds".toList])] }

/-- The new class has a constructor for the same helper, one for a helper of its own and one for an
array of the new class. -/
def overlappingScene : Scene :=
  { classes := scene.classes.map fun c =>
      { c with methods :=
          [[helper], [.ref ⟨"b.NewHelper".toList⟩], [.array (.ref newClass)]].map fun params =>
            { sig := constructor params, modifiers := [], throws := [], body := none } }
    entryPoints := []
    ordered := List.pairwise_singleton _ _ }

/-- The constructor for the same helper is declared, but the call goes to the one for the other,
and passes it a helper that it does not accept. An array of the old class is passed where the
constructor takes an array of the new class. -/
theorem replaceType_ne_image :
    ∃ report b', overlapping.replaceType overlappingScene oldClass.chars newClass.chars =
        (.ok report, b') ∧
      (constructor [helper]).image oldClass newClass = constructor [helper] ∧
      (overlappingScene.method? ⟨newClass, constructor [helper]⟩).isSome = true ∧
      (b'.statements.filterMap Stmt.invocation?).map Call.method =
        [⟨newClass, constructor [.ref ⟨"b.NewHelper".toList⟩]⟩,
          ⟨newClass, constructor [.array (.ref newClass)]⟩] ∧
      b'.statements.map Stmt.text =
        ["replaced_x = new b.New".toList,
          "specialinvoke replaced_x.<b.New: void <init>(b.NewHelper)>(h)".toList,
          "replaced_y = new b.New".toList,
          "specialinvoke replaced_y.<b.New: void <init>(b.New[])>(olds)".toList] ∧
      b'.locals.drop 2 = [⟨"h".toList, helper⟩, ⟨"olds".toList, .array (.ref oldClass)⟩] := by
  have hok : (overlapping.replaceType overlappingScene oldClass.chars
      newClass.chars).1.isOk = true := by
    decide +kernel
  obtain ⟨report, b', hrun⟩ := Substitution.exists_of_isOk hok
  refine ⟨report, b', hrun, ?_⟩
  obtain rfl : (overlapping.replaceType overlappingScene oldClass.chars newClass.chars).2 = b' :=
    congrArg _ hrun
  decide +kernel

end SampleSubstitution

end Weaver
