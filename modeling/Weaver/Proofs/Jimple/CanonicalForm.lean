import Weaver.Proofs.Jimple.TypeImage

/-!
# The Canonical Form of References

Types, signatures and references are read generously: white space may stand around and between their
parts, and the names of members and of the classes in front of them may hold almost any character.
What is read is written in one way only.

## Main definitions

* `Canonical`: the written form is the canonical one among the texts that a reader accepts.

## Main results

* `ClassName.isReadable_of_cutReference?`, `MethodRef.IsReadable.of_read`,
  `FieldRef.IsReadable.of_read?`: **what was read is readable**, so that reading finds all parts in
  the written form again.
* `canonical_references`: **the written form is canonical** for all four readers.
-/

namespace Weaver

/-! ### Canonical forms -/

/-- **The written form is canonical** among the texts that a reader accepts: exactly the readable
things are read from some text, what was read is read back from its written form, two different
things that were read are written differently, and to read and write a second time changes
nothing. -/
structure Canonical {α : Type} (Readable : α → Prop) (Reads : Text → α → Prop) (text : α → Text) :
    Prop where
  exists_reads_iff : ∀ v, (∃ s, Reads s v) ↔ Readable v
  reads_text : ∀ s v, Reads s v → Reads (text v) v
  text_injective : ∀ s s' v v', Reads s v → Reads s' v' → text v = text v' → v = v'
  text_fixed : ∀ s v w, Reads s v → Reads (text v) w → text w = text v

/-- A form is canonical for a reader that **gives one result**, which is readable, and reads back
what is readable. -/
theorem Canonical.of_readable {α : Type} {Readable : α → Prop} {Reads : Text → α → Prop}
    {text : α → Text} (hunique : ∀ s v w, Reads s v → Reads s w → v = w)
    (hreadable : ∀ s v, Reads s v → Readable v) (hback : ∀ v, Readable v → Reads (text v) v) :
    Canonical Readable Reads text where
  exists_reads_iff v := by
    constructor
    · rintro ⟨s, hv⟩
      exact hreadable s v hv
    · exact fun hv => ⟨text v, hback v hv⟩
  reads_text s v hv := hback v (hreadable s v hv)
  text_injective s s' v v' hv hv' htext := by
    have hv := hback v (hreadable s v hv)
    rw [htext] at hv
    exact hunique (text v') v v' hv (hback v' (hreadable s' v' hv'))
  text_fixed s v w hv hw :=
    congrArg text (hunique (text v) w v hw (hback v (hreadable s v hv)))

/-! ### What was read is readable -/

/-- The class in front of a member is readable: the cut is at the first separator. -/
theorem ClassName.isReadable_of_cutReference? {s cls member : Text}
    (h : cutReference? s = some (cls, member)) : IsReadable ⟨cls⟩ := by
  simp only [cutReference?, Option.bind_eq_bind, Option.bind_eq_some_iff] at h
  obtain ⟨inner, -, inner', -, ⟨front, rest⟩, hcut, heq⟩ := h
  obtain ⟨rfl, rfl⟩ := Prod.mk.inj (Option.some.inj heq)
  refine ⟨Text.trim_trim front, fun hpart => ?_⟩
  exact Text.not_isInfix_of_cutAt? (by decide) hcut (hpart.trans (Text.isInfix_trim front))

/-- A signature is read without an error exactly when it is read. -/
theorem Signature.read_eq_ok_iff {s : Text} {sig : Signature} :
    read s = .ok sig ↔ read? s = some sig := by
  rw [read]
  cases read? s <;> simp

/-- A field is read without an error exactly when it is read. -/
theorem FieldRef.read_eq_ok_iff {s : Text} {f : FieldRef} : read s = .ok f ↔ read? s = some f := by
  rw [read]
  cases read? s <;> simp

/-- **A method reference that was read is readable.** -/
theorem MethodRef.IsReadable.of_read {s : Text} {m : MethodRef} (h : read s = .ok m) :
    m.IsReadable := by
  refine ⟨?_, isReadable_of_read h⟩
  rw [read] at h
  split at h
  · cases h
  next cls member hcut =>
    cases hsig : Signature.read member with
    | error bad => rw [hsig] at h; cases h
    | ok sig =>
      rw [hsig] at h
      obtain rfl := Except.ok.inj h
      exact ClassName.isReadable_of_cutReference? hcut

/-- **A field reference that was read is readable**: its name begins behind the last space and ends
where the white space around the reference does. -/
theorem FieldRef.IsReadable.of_read? {s : Text} {f : FieldRef} (h : read? s = some f) :
    f.IsReadable := by
  simp only [read?, Option.bind_eq_bind, Option.bind_eq_some_iff] at h
  obtain ⟨⟨cls, member⟩, hcut, ⟨ty, name⟩, hlast, ty', hty, heq⟩ := h
  obtain rfl := Option.some.inj heq
  obtain ⟨hmember, hname⟩ := Text.cutAtLast?_eq_some hlast
  have htight : Text.IsTight (Text.trim member) := Text.isTight_trim (by rw [hmember]; simp)
  rw [hmember] at htight
  exact ⟨ClassName.isReadable_of_cutReference? hcut, Ty.isReadable_of_read? hty, hname,
    htight.last_of_append rfl⟩

/-! ### All readers -/

/-- **References have one canonical form**: whatever text a reader of types, signatures, method
references or field references accepts, it reads the same from the written form of the result. What
is read is readable, and everything readable is read from its written form. -/
theorem canonical_references :
    Canonical Ty.IsReadable (fun s ty => Ty.read? s = some ty) Ty.text ∧
    Canonical Signature.IsReadable (fun s sig => Signature.read s = .ok sig) Signature.text ∧
    Canonical MethodRef.IsReadable (fun s m => MethodRef.read s = .ok m) MethodRef.text ∧
    Canonical FieldRef.IsReadable (fun s f => FieldRef.read s = .ok f) FieldRef.text := by
  refine ⟨.of_readable ?_ ?_ ?_, .of_readable ?_ ?_ ?_, .of_readable ?_ ?_ ?_,
    .of_readable ?_ ?_ ?_⟩
  · exact fun s v w hv hw => Option.some.inj (hv.symm.trans hw)
  · exact fun s ty hread => Ty.isReadable_of_read? hread
  · exact fun ty h => h.read?_text
  · exact fun s v w hv hw => Except.ok.inj (hv.symm.trans hw)
  · exact fun s sig hread => Signature.isReadable_of_read? (Signature.read_eq_ok_iff.1 hread)
  · exact fun sig h => Signature.read_eq_ok_iff.2 h.read?_text
  · exact fun s v w hv hw => Except.ok.inj (hv.symm.trans hw)
  · exact fun s m hread => .of_read hread
  · exact fun m h => h.read_text
  · exact fun s v w hv hw => Except.ok.inj (hv.symm.trans hw)
  · exact fun s f hread => .of_read? (FieldRef.read_eq_ok_iff.1 hread)
  · exact fun f h => FieldRef.read_eq_ok_iff.2 h.read?_text

/-! ### A field reference with white space inside -/

namespace SampleForm

/-- A reference with white space of several kinds, and a colon in the name of the class. -/
def written : Text :=
  "  < a :b : int [] \tx.>\n".toList

/-- The field that it names. -/
def field : FieldRef :=
  { cls := ⟨"a :b".toList⟩, ty := .array .int, name := "\tx.".toList }

theorem read?_int : Ty.read? "int ".toList = some .int := by
  rw [Ty.read?_eq]
  rfl

theorem read?_array : Ty.read? "int []".toList = some (.array .int) := by
  rw [Ty.read?_eq]
  exact congrArg (Option.map Ty.array) read?_int

/-- The reference is read as the field. -/
theorem read_written : FieldRef.read written = .ok field := by
  have hparts : FieldRef.read? written =
      (Ty.read? "int []".toList).bind fun ty => some { field with ty := ty } := rfl
  rw [FieldRef.read_eq_ok_iff, hparts, read?_array]
  rfl

/-- The reference is written in another way, which is read as the same field. -/
theorem canonical_references_field :
    FieldRef.read written = .ok field ∧ field.text = "<a :b: int[] \tx.>".toList ∧
      FieldRef.read "<a :b: int[] \tx.>".toList = .ok field := by
  obtain ⟨-, -, -, hfield⟩ := canonical_references
  exact ⟨read_written, rfl, hfield.reads_text written field read_written⟩

end SampleForm

end Weaver
