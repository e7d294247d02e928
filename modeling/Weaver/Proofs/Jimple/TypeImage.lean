import Weaver.Proofs.Jimple.RoundTrip.Reference
import Weaver.Proofs.Text.Replacing

/-!
# Replacing a Class in a Signature

There are two ways to replace a class in a signature. Its *image* has the new class wherever a type
is the old one or an array of it. It is *substituted* when the name of the old class is replaced in
the written form, wherever it stands: in the name of another class, in a reserved word, or in the
name of the method.

What is substituted in the written form is substituted in every name on its own, since names are
kept apart by characters that no name of a class contains. So both ways agree exactly if the name
of the old class stands nowhere but as the whole name of a class.

## Main definitions

* `Ty.image`, `Signature.image`: the class replaced in the types.
* `Ty.substituted`, `Signature.substituted`: its name replaced in the written form.
* `Ty.NamesWhole`, `Signature.NamesWhole`: the name stands as a whole name only.

## Main results

* `MethodRef.read_replaceAll`: **the written form of a constructor is read again** after the
  substitution.
* `Ty.substituted_eq_image_iff`, `Signature.substituted_eq_image_iff`: when both ways agree.
-/

namespace Weaver

variable {old new : ClassName}

/-! ### Types -/

namespace Ty

/-- The type of a name: that of a reserved word, or a class. -/
def ofName (s : Text) : Ty :=
  (named.find? fun t => t.text == s).getD (class_ s)

/-- The type with another one in place of its base. -/
def mapBase (f : Ty → Ty) : Ty → Ty
  | array elem => array (elem.mapBase f)
  | ty => f ty

/-- The type with `new` in place of `old`. -/
def image (old new : ClassName) (ty : Ty) : Ty :=
  ty.mapBase fun t => if t = ref old then ref new else t

/-- The type whose name has `new` wherever `old` stands in the name of the given one. -/
def substituted (old new : ClassName) (ty : Ty) : Ty :=
  ty.mapBase fun t => ofName (Text.replaceAll old.chars new.chars t.text)

/-- The name of the class stands in that of the type as the whole of it, or not at all. -/
def NamesWhole (old : ClassName) (ty : Ty) : Prop :=
  ty.base = ref old ∨ Text.contains ty.base.text old.chars = false

instance (old : ClassName) (ty : Ty) : Decidable (ty.NamesWhole old) :=
  inferInstanceAs (Decidable (_ ∨ _))

/-- Two images of a type agree if they do on its base. -/
theorem mapBase_eq_iff {f g : Ty → Ty} {ty : Ty} :
    ty.mapBase f = ty.mapBase g ↔ f ty.base = g ty.base := by
  induction ty with
  | array elem ih => rw [mapBase, mapBase, array.injEq, ih, base]
  | _ => rfl

/-- The base of the image is the image of the base. -/
theorem base_mapBase {f : Ty → Ty} (hf : ∀ t, (f t).base = f t) (ty : Ty) :
    (ty.mapBase f).base = f ty.base := by
  induction ty with
  | array elem ih => exact ih
  | _ => exact hf _

/-- The identity is no change. -/
theorem mapBase_id (ty : Ty) : ty.mapBase id = ty := by
  induction ty with
  | array elem ih => rw [mapBase, ih]
  | _ => rfl

/-- A type of another class is its own image. -/
theorem image_of_base_ne {ty : Ty} (h : ty.base ≠ ref old) : ty.image old new = ty :=
  (mapBase_eq_iff.2 (if_neg h)).trans ty.mapBase_id

/-- A type that is made from a name has this name. -/
theorem text_ofName (s : Text) : (ofName s).text = s := by
  rw [ofName]
  cases h : named.find? fun t => t.text == s with
  | none => rfl
  | some t => exact (text_of_find?_named h).2

/-- What a name is read as is the type that is made from it. -/
theorem ofName_of_readName? {s : Text} {ty : Ty} (h : readName? s = some ty) : ofName s = ty := by
  rw [readName?] at h
  rw [ofName]
  split at h
  next t hfind => rw [hfind, Option.getD_some, Option.some.inj h]
  next hfind =>
    split at h
    · rw [hfind, Option.getD_none, Option.some.inj h]
    · cases h

/-- A name is read as the type that is made from it. -/
theorem readName?_ofName {s : Text} (hs : ∀ c ∈ s, isNameChar c = true) :
    readName? s = some (ofName s) := by
  rw [readName?, ofName]
  cases h : named.find? fun t => t.text == s with
  | none => exact if_pos (List.all_eq_true.2 hs)
  | some t => rfl

/-- A type that is made from a name is its own base. -/
theorem base_ofName (s : Text) : (ofName s).base = ofName s := by
  have hnamed : ∀ t ∈ named, t.base = t := by decide
  rw [ofName]
  cases h : named.find? fun t => t.text == s with
  | none => rfl
  | some t => exact hnamed t (text_of_find?_named h).1

/-- The base of the substituted type has the substituted name. -/
theorem base_substituted (old new : ClassName) (ty : Ty) :
    (ty.substituted old new).base = ofName (Text.replaceAll old.chars new.chars ty.base.text) :=
  base_mapBase (fun _ => base_ofName _) ty

/-- **The written form of a type**, with the name of the class replaced. -/
theorem replaceAll_text (hold : old.WellFormed) (ty : Ty) :
    Text.replaceAll old.chars new.chars ty.text = (ty.substituted old new).text := by
  induction ty with
  | array elem ih =>
    have hform : "[]".toList = '[' :: ([] ++ [']']) := rfl
    rw [text_array, hform, Text.replaceAll_append_cons hold.ne_nil (hold.not_mem rfl), ih,
      Text.replaceAll_append_cons hold.ne_nil (hold.not_mem rfl), Text.replaceAll_nil hold.ne_nil]
    rfl
  | _ => exact (text_ofName _).symm

/-- The substituted type is readable. -/
theorem IsReadable.substituted (hold : old.WellFormed) (hnew : new.WellFormed) {ty : Ty}
    (h : ty.IsReadable) : (ty.substituted old new).IsReadable := by
  have hchars : ∀ c ∈ Text.replaceAll old.chars new.chars ty.base.text, isNameChar c = true := by
    intro c hc
    obtain hc | hc := Text.mem_replaceAll hold.ne_nil hc
    · exact hnew.chars c hc
    · exact isNameChar_of_readName? h.readName?_base c hc
  constructor
  · rw [base_substituted, text_ofName]
    exact Text.replaceAll_ne_nil hold.ne_nil hnew.ne_nil h.base_ne_nil
  · rw [base_substituted, text_ofName]
    exact readName?_ofName hchars

/-- **Both ways to replace a class in a type agree** if and only if its name stands there as a
whole name only. -/
theorem substituted_eq_image_iff (hold : old.WellFormed) (hnew : new.WellFormed) (hne : old ≠ new)
    {ty : Ty} (h : ty.IsReadable) :
    ty.substituted old new = ty.image old new ↔ ty.NamesWhole old := by
  have hchars : old.chars ≠ new.chars := fun h => hne (congrArg ClassName.mk h)
  rw [Ty.substituted, image, mapBase_eq_iff, NamesWhole]
  by_cases hbase : ty.base = ref old
  · rw [if_pos hbase, hbase, text_ref, Text.replaceAll_self hold.ne_nil,
      ofName_of_readName? (readName?_of_wellFormed hnew)]
    exact iff_of_true rfl (.inl rfl)
  · rw [if_neg hbase, or_iff_right hbase, ← Text.replaceAll_eq_self_iff hold.ne_nil hchars]
    constructor
    · exact fun heq => (text_ofName _).symm.trans (congrArg text heq)
    · exact fun heq => by rw [heq, ofName_of_readName? h.readName?_base]

end Ty

/-! ### Signatures -/

namespace Signature

/-- The signature with `new` in place of `old`. -/
def image (old new : ClassName) (sig : Signature) : Signature :=
  { ret := sig.ret.image old new, name := sig.name, params := sig.params.map (Ty.image old new) }

/-- The signature with `new` wherever `old` stands in a name of the given one. -/
def substituted (old new : ClassName) (sig : Signature) : Signature :=
  { ret := sig.ret.substituted old new
    name := Text.replaceAll old.chars new.chars sig.name
    params := sig.params.map (Ty.substituted old new) }

/-- The name of the class stands in the signature as the whole name of a type only. -/
structure NamesWhole (old : ClassName) (sig : Signature) : Prop where
  ret : sig.ret.NamesWhole old
  name : Text.contains sig.name old.chars = false
  params : ∀ ty ∈ sig.params, ty.NamesWhole old

/-- **The written form of a signature**, with the name of the class replaced. -/
theorem replaceAll_text (hold : old.WellFormed) (sig : Signature) :
    Text.replaceAll old.chars new.chars sig.text = (sig.substituted old new).text := by
  have hform : ∀ s : Signature, s.text = s.ret.text ++ ' ' :: (s.name ++
      '(' :: (Text.join ",".toList (s.params.map Ty.text) ++ ')' :: [])) := by
    intro s
    simp [text]
  have hparams : sig.params.map (Text.replaceAll old.chars new.chars ∘ Ty.text) =
      (sig.substituted old new).params.map Ty.text := by
    rw [substituted, List.map_map]
    exact List.map_congr_left fun ty _ => Ty.replaceAll_text hold ty
  have hjoin : Text.replaceAll old.chars new.chars (Text.join ",".toList (sig.params.map Ty.text)) =
      Text.join ",".toList ((sig.substituted old new).params.map Ty.text) := by
    rw [← hparams, ← List.map_map]
    exact Text.replaceAll_join hold.ne_nil (hold.not_mem rfl) new.chars _
  rw [hform, hform, Text.replaceAll_append_cons hold.ne_nil (hold.not_mem rfl),
    Text.replaceAll_append_cons hold.ne_nil (hold.not_mem rfl),
    Text.replaceAll_append_cons hold.ne_nil (hold.not_mem rfl), Text.replaceAll_nil hold.ne_nil,
    Ty.replaceAll_text hold, hjoin]
  rfl

/-- No white space comes to stand around the substituted name of a constructor. -/
theorem isTight_constructorName (hold : old.WellFormed) (new : ClassName) :
    Text.IsTight (Text.replaceAll old.chars new.chars constructorName) := by
  have hform : constructorName = '<' :: ("init".toList ++ '>' :: []) := rfl
  have hopen : Text.IsTight ['<'] := Text.isTight_of_forall (by decide) (by decide)
  have hclose : Text.IsTight ['>'] := Text.isTight_of_forall (by decide) (by decide)
  have htight := hopen.append (Text.replaceAll old.chars new.chars "init".toList) hclose
  rw [hform, Text.replaceAll_cons_of_not_mem hold.ne_nil (hold.not_mem rfl),
    Text.replaceAll_append_cons hold.ne_nil (hold.not_mem rfl), Text.replaceAll_nil hold.ne_nil]
  exact htight

/-- The substituted signature of a constructor is readable. -/
theorem IsReadable.substituted (hold : old.WellFormed) (hnew : new.WellFormed) {sig : Signature}
    (h : sig.IsReadable) (hname : sig.name = constructorName) :
    (sig.substituted old new).IsReadable where
  ret := h.ret.substituted hold hnew
  name := by
    rw [Signature.substituted, hname]
    exact isTight_constructorName hold new
  params := by
    intro ty hty
    obtain ⟨ty, hmem, rfl⟩ := List.mem_map.1 hty
    exact (h.params ty hmem).substituted hold hnew

/-- **Both ways to replace a class in a signature agree** if and only if its name stands there as a
whole name only. -/
theorem substituted_eq_image_iff (hold : old.WellFormed) (hnew : new.WellFormed) (hne : old ≠ new)
    {sig : Signature} (h : sig.IsReadable) :
    sig.substituted old new = sig.image old new ↔ sig.NamesWhole old := by
  have hchars : old.chars ≠ new.chars := fun h => hne (congrArg ClassName.mk h)
  have hparams : sig.params.map (Ty.substituted old new) = sig.params.map (Ty.image old new) ↔
      ∀ ty ∈ sig.params, ty.NamesWhole old := by
    rw [List.map_inj_left]
    exact forall₂_congr fun ty hty => Ty.substituted_eq_image_iff hold hnew hne (h.params ty hty)
  rw [substituted, image, Signature.mk.injEq, Ty.substituted_eq_image_iff hold hnew hne h.ret,
    Text.replaceAll_eq_self_iff hold.ne_nil hchars, hparams]
  exact ⟨fun ⟨hret, hname, hparams⟩ => ⟨hret, hname, hparams⟩,
    fun h => ⟨h.ret, h.name, h.params⟩⟩

/-- Types that have been read are readable. -/
theorem isReadable_of_mapM_read? {ts : List Text} {tys : List Ty}
    (h : ts.mapM Ty.read? = some tys) : ∀ ty ∈ tys, ty.IsReadable := by
  induction ts generalizing tys with
  | nil =>
    obtain rfl := Option.some.inj h
    simp
  | cons t ts ih =>
    rw [List.mapM_cons] at h
    obtain ⟨ty, hty, h⟩ := Option.bind_eq_some_iff.1 h
    obtain ⟨rest, hrest, h⟩ := Option.bind_eq_some_iff.1 h
    obtain rfl := Option.some.inj h
    exact List.forall_mem_cons.2 ⟨Ty.isReadable_of_read? hty, ih hrest⟩

/-- **A signature that was read is readable.** -/
theorem isReadable_of_read? {s : Text} {sig : Signature} (h : read? s = some sig) :
    sig.IsReadable := by
  simp only [read?, Option.bind_eq_bind, Option.bind_eq_some_iff] at h
  obtain ⟨⟨ret, rest⟩, -, ⟨name, params⟩, -, inner, -, tys, hparams, h⟩ := h
  split at h
  · cases h
  next hname =>
    obtain ⟨ty, hret, h⟩ := Option.bind_eq_some_iff.1 h
    obtain rfl := Option.some.inj h
    refine ⟨Ty.isReadable_of_read? hret, Text.isTight_trim hname, ?_⟩
    rw [readParams?] at hparams
    split at hparams
    · obtain rfl := Option.some.inj hparams
      simp
    · exact isReadable_of_mapM_read? hparams

end Signature

/-! ### References to constructors -/

namespace MethodRef

/-- The signature of a method that has been read is readable. -/
theorem isReadable_of_read {s : Text} {m : MethodRef} (h : read s = .ok m) :
    m.sig.IsReadable := by
  rw [read] at h
  split at h
  · cases h
  next cls member _ =>
    rw [Signature.read] at h
    split at h
    next sig hsig =>
      obtain rfl := Except.ok.inj h
      exact Signature.isReadable_of_read? hsig
    · cases h

/-- **The written form of a reference**, with the name of its class replaced. -/
theorem replaceAll_text (hold : old.WellFormed) (sig : Signature) :
    Text.replaceAll old.chars new.chars (text ⟨old, sig⟩) =
      text ⟨new, sig.substituted old new⟩ := by
  have hform : ∀ m : MethodRef, m.text = '<' :: (m.cls.chars ++ ':' :: ' ' :: (m.sig.text ++
      '>' :: [])) := by
    intro m
    simp [text]
  rw [hform, hform, Text.replaceAll_cons_of_not_mem hold.ne_nil (hold.not_mem rfl),
    Text.replaceAll_append_cons hold.ne_nil (hold.not_mem rfl),
    Text.replaceAll_cons_of_not_mem hold.ne_nil (hold.not_mem rfl),
    Text.replaceAll_append_cons hold.ne_nil (hold.not_mem rfl), Text.replaceAll_nil hold.ne_nil,
    Text.replaceAll_self hold.ne_nil, Signature.replaceAll_text hold]

/-- **The written form of a constructor is read again**, with the name of its class replaced. -/
theorem read_replaceAll (hold : old.WellFormed) (hnew : new.WellFormed) {sig : Signature}
    (hsig : sig.IsReadable) (hname : sig.name = constructorName) :
    read (Text.replaceAll old.chars new.chars (text ⟨old, sig⟩)) =
      .ok ⟨new, sig.substituted old new⟩ := by
  rw [replaceAll_text hold]
  exact read_text_of_isReadable hnew (hsig.substituted hold hnew hname)

end MethodRef

end Weaver
