import Weaver.Proofs.Jimple.LexicalForm
import Weaver.Proofs.Text.Characters
import Weaver.Proofs.Text.Cutting

/-!
# Reading Back Types and References

A type, a signature or a reference that is written is read again: none of the characters
that separate the parts of a written form occurs in the parts before it.

It is enough that the parts are readable. For a type, this means that what stands before the
brackets is what its name reads as, and for the class of a reference that the text does not hold the
separator behind it. All that was read is readable, and so is all that is well-formed.

## Main definitions

* `Ty.IsReadable`, `Signature.IsReadable`: the types of which the written form says everything.
* `ClassName.IsReadable`, `MethodRef.IsReadable`, `FieldRef.IsReadable`: the same for members of
  classes.

## Main results

* `Ty.IsReadable.read?_text`, `Signature.IsReadable.read?_text`: reading undoes writing.
* `Ty.isReadable_of_read?`: what was read is readable.
* `MethodRef.IsReadable.read_text`, `FieldRef.IsReadable.read?_text`: the same for members of
  classes.
-/

namespace Weaver

/-! ### Class names and words -/

/-- The name of a class is not empty. -/
theorem ClassName.WellFormed.ne_nil {c : ClassName} (h : c.WellFormed) : c.chars ≠ [] := by
  obtain ⟨d, rest, hd, -⟩ := h.head
  rw [hd]
  exact List.cons_ne_nil _ _

/-- Only characters of names occur in the name of a class. -/
theorem ClassName.WellFormed.not_mem {c : ClassName} (h : c.WellFormed) {d : Char}
    (hd : Ty.isNameChar d = false) : d ∉ c.chars :=
  fun hmem => ne_of_isNameChar (h.chars d hmem) hd rfl

/-- The name of a class has no blanks. -/
theorem ClassName.WellFormed.not_blank {c : ClassName} (h : c.WellFormed) :
    ∀ d ∈ c.chars, isBlank d = false :=
  fun d hd => isBlank_eq_false_of_isNameChar (h.chars d hd)

/-- The name of a class has no blanks at its ends. -/
theorem ClassName.WellFormed.isTight {c : ClassName} (h : c.WellFormed) : Text.IsTight c.chars :=
  Text.isTight_of_forall h.ne_nil h.not_blank

/-- A word is written in the characters of names. -/
theorem IsWord.isNameChar {s : Text} (h : IsWord s) : ∀ c ∈ s, Ty.isNameChar c = true :=
  fun c hc => isNameChar_of_isWordChar (h.2 c hc)

/-- Other characters do not occur in a word. -/
theorem IsWord.not_mem {s : Text} (h : IsWord s) {d : Char} (hd : Ty.isNameChar d = false) :
    d ∉ s :=
  fun hmem => ne_of_isNameChar (h.isNameChar d hmem) hd rfl

/-- A word has no blanks. -/
theorem IsWord.not_blank {s : Text} (h : IsWord s) : ∀ c ∈ s, isBlank c = false :=
  fun c hc => isBlank_eq_false_of_isNameChar (h.isNameChar c hc)

/-- A word has no blanks at its ends. -/
theorem IsWord.isTight {s : Text} (h : IsWord s) : Text.IsTight s :=
  Text.isTight_of_forall h.1 h.not_blank

/-! ### Types -/

namespace Ty

theorem text_ref (cls : ClassName) : (ref cls).text = cls.chars :=
  rfl

theorem text_array (elem : Ty) : (array elem).text = elem.text ++ "[]".toList :=
  rfl

/-- Whether a character may stand in the written form of a type. -/
def isTypeChar (c : Char) : Bool :=
  isNameChar c || c == '[' || c == ']'

/-- The characters of names occur in types. -/
theorem isTypeChar_of_isNameChar {c : Char} (h : isNameChar c = true) : isTypeChar c = true := by
  rw [isTypeChar, h]
  rfl

/-- What does not occur in types does not occur in names. -/
theorem isNameChar_eq_false_of_isTypeChar {c : Char} (h : isTypeChar c = false) :
    isNameChar c = false := by
  rw [Bool.eq_false_iff]
  intro hname
  rw [isTypeChar_of_isNameChar hname] at h
  cases h

/-- No character of types is a blank. -/
theorem isBlank_eq_false_of_isTypeChar {c : Char} (h : isTypeChar c = true) :
    isBlank c = false := by
  simp only [isTypeChar, Bool.or_eq_true, beq_iff_eq] at h
  obtain (h | rfl) | rfl := h
  · exact isBlank_eq_false_of_isNameChar h
  all_goals rfl

/-- The type without its brackets. -/
def base : Ty → Ty
  | array elem => elem.base
  | ty => ty

/-- Without its brackets, the type is what its name reads as. -/
structure IsReadable (ty : Ty) : Prop where
  base_ne_nil : ty.base.text ≠ []
  readName?_base : readName? ty.base.text = some ty.base

/-- A named type is found by its written form. -/
theorem text_of_find?_named {s : Text} {t : Ty}
    (h : named.find? (fun t => t.text == s) = some t) : t ∈ named ∧ t.text = s := by
  have heq : (t.text == s) = true := by simpa using List.find?_some h
  exact ⟨List.mem_of_find?_eq_some h, eq_of_beq heq⟩

/-- A name is that of the type that it reads as. -/
theorem text_of_readName? {s : Text} {ty : Ty} (h : readName? s = some ty) :
    ty.text = s ∧ ty.base = ty := by
  have hnamed : ∀ t ∈ named, t.base = t := by decide
  rw [readName?] at h
  split at h
  next t hfind =>
    obtain rfl := Option.some.inj h
    obtain ⟨hmem, htext⟩ := text_of_find?_named hfind
    exact ⟨htext, hnamed t hmem⟩
  · split at h
    · obtain rfl := Option.some.inj h
      exact ⟨rfl, rfl⟩
    · cases h

/-- What is read as a type without brackets is written in the characters of names. -/
theorem isNameChar_of_readName? {s : Text} {ty : Ty} (h : readName? s = some ty) :
    ∀ c ∈ s, isNameChar c = true := by
  have hnamed : ∀ t ∈ named, ∀ c ∈ t.text, isNameChar c = true := by decide
  rw [readName?] at h
  split at h
  next t hfind =>
    obtain ⟨hmem, rfl⟩ := text_of_find?_named hfind
    exact hnamed t hmem
  · split at h
    next hall => exact List.all_eq_true.1 hall
    · cases h

/-- A readable type is written in the characters of types. -/
theorem IsReadable.isTypeChar {ty : Ty} (h : ty.IsReadable) :
    ∀ c ∈ ty.text, isTypeChar c = true := by
  induction ty with
  | array elem ih =>
    intro c hc
    obtain hc | hc := List.mem_append.1 hc
    · exact ih ⟨h.base_ne_nil, h.readName?_base⟩ c hc
    · have : ∀ d ∈ "[]".toList, Ty.isTypeChar d = true := by decide
      exact this c hc
  | _ => exact fun c hc => isTypeChar_of_isNameChar (isNameChar_of_readName? h.readName?_base c hc)

/-- Other characters do not occur in a readable type. -/
theorem IsReadable.not_mem {ty : Ty} (h : ty.IsReadable) {d : Char}
    (hd : Ty.isTypeChar d = false) : d ∉ ty.text := by
  intro hmem
  rw [h.isTypeChar d hmem] at hd
  cases hd

/-- The separators of a list of types stand in no type of it. -/
theorem not_mem_join {tys : List Ty} (h : ∀ ty ∈ tys, ty.IsReadable) {d : Char}
    (hd : Ty.isTypeChar d = false) {sep : Text} (hsep : d ∉ sep) :
    d ∉ Text.join sep (tys.map Ty.text) := by
  refine Text.not_mem_join hsep fun t ht => ?_
  obtain ⟨ty, hty, rfl⟩ := List.mem_map.1 ht
  exact (h ty hty).not_mem hd

/-- A readable type has no blanks. -/
theorem IsReadable.not_blank {ty : Ty} (h : ty.IsReadable) : ∀ c ∈ ty.text, isBlank c = false :=
  fun c hc => isBlank_eq_false_of_isTypeChar (h.isTypeChar c hc)

/-- The written form of a readable type is not empty. -/
theorem IsReadable.text_ne_nil {ty : Ty} (h : ty.IsReadable) : ty.text ≠ [] := by
  cases ty with
  | array elem => rw [text_array]; exact List.append_ne_nil_of_right_ne_nil _ (by decide)
  | _ => exact h.base_ne_nil

/-- A readable type has no blanks at its ends. -/
theorem IsReadable.isTight {ty : Ty} (h : ty.IsReadable) : Text.IsTight ty.text :=
  Text.isTight_of_forall h.text_ne_nil h.not_blank

/-- A type without brackets is a name. -/
theorem read?_of_isNameChar {s : Text} (hne : s ≠ []) (hs : ∀ c ∈ s, isNameChar c = true) :
    read? s = readName? s := by
  have htrim : Text.trim s = s :=
    Text.trim_of_forall fun c hc => isBlank_eq_false_of_isNameChar (hs c hc)
  have hbrackets : Text.stripSuffix? "[]".toList s = none := by
    refine Text.stripSuffix?_eq_none_of_not_mem (c := ']') (by decide) fun hmem => ?_
    exact ne_of_isNameChar (hs _ hmem) rfl rfl
  rw [read?, htrim, if_neg hne]
  split
  next elem h => rw [hbrackets] at h; cases h
  · rfl

/-- A pair of brackets makes an array. -/
theorem read?_append_brackets {s : Text} (hs : ∀ c ∈ s, isBlank c = false) :
    read? (s ++ "[]".toList) = (read? s).map array := by
  have htrim : Text.trim (s ++ "[]".toList) = s ++ "[]".toList := by
    refine Text.trim_of_forall fun c hc => ?_
    obtain hc | hc := List.mem_append.1 hc
    · exact hs c hc
    · have : ∀ d ∈ "[]".toList, isBlank d = false := by decide
      exact this c hc
  rw [read?, htrim, if_neg (by simp)]
  split
  next elem h =>
    rw [Text.stripSuffix?_append, Option.some.injEq] at h
    rw [h]
  next h => rw [Text.stripSuffix?_append] at h; cases h

/-- A well-formed name is read as its class. -/
theorem readName?_of_wellFormed {cls : ClassName} (h : cls.WellFormed) :
    readName? cls.chars = some (.ref cls) := by
  have hfree : ∀ t ∈ named, ¬(t.text == cls.chars) = true := by
    intro t ht heq
    refine h.free ?_
    rw [← eq_of_beq heq, reservedWords]
    simp only [List.mem_append]
    exact .inl (.inl (.inl (List.mem_map_of_mem ht)))
  rw [readName?, List.find?_eq_none.2 hfree]
  exact if_pos (List.all_eq_true.2 h.chars)

/-- **Types are read back.** -/
theorem IsReadable.read?_text {ty : Ty} (h : ty.IsReadable) : read? ty.text = some ty := by
  induction ty with
  | array elem ih =>
    have helem : elem.IsReadable := ⟨h.base_ne_nil, h.readName?_base⟩
    rw [text_array, read?_append_brackets helem.not_blank, ih helem, Option.map_some]
  | _ =>
    exact (read?_of_isNameChar h.base_ne_nil (isNameChar_of_readName? h.readName?_base)).trans
      h.readName?_base

/-- Well-formed types are readable. -/
theorem WellFormed.isReadable {ty : Ty} (h : ty.WellFormed) : ty.IsReadable := by
  induction ty with
  | ref cls => exact ⟨ClassName.WellFormed.ne_nil h, readName?_of_wellFormed h⟩
  | array elem ih => exact ⟨(ih h).base_ne_nil, (ih h).readName?_base⟩
  | _ => exact ⟨by decide, by decide⟩

/-- A well-formed type is written in the characters of types. -/
theorem WellFormed.isTypeChar {ty : Ty} (h : ty.WellFormed) :
    ∀ c ∈ ty.text, Ty.isTypeChar c = true :=
  h.isReadable.isTypeChar

/-- Other characters do not occur in a well-formed type. -/
theorem WellFormed.not_mem {ty : Ty} (h : ty.WellFormed) {d : Char}
    (hd : Ty.isTypeChar d = false) : d ∉ ty.text :=
  h.isReadable.not_mem hd

/-- A well-formed type has no blanks. -/
theorem WellFormed.not_blank {ty : Ty} (h : ty.WellFormed) : ∀ c ∈ ty.text, isBlank c = false :=
  h.isReadable.not_blank

/-- The written form of a well-formed type is not empty. -/
theorem WellFormed.text_ne_nil {ty : Ty} (h : ty.WellFormed) : ty.text ≠ [] :=
  h.isReadable.text_ne_nil

/-- A well-formed type has no blanks at its ends. -/
theorem WellFormed.isTight {ty : Ty} (h : ty.WellFormed) : Text.IsTight ty.text :=
  h.isReadable.isTight

/-- **A well-formed type is read back.** -/
theorem read?_text {ty : Ty} (h : ty.WellFormed) : read? ty.text = some ty :=
  h.isReadable.read?_text

/-- Reading depends on what remains without the white space around it. -/
theorem read?_eq (s : Text) :
    read? s = if Text.trim s = [] then none else
      match Text.stripSuffix? "[]".toList (Text.trim s) with
      | some elem => (read? elem).map array
      | none => readName? (Text.trim s) := by
  rw [read?]
  split
  · rfl
  · split
    next elem h => rw [h]
    next h => rw [h]

/-- **What is read is read back**: no reader gives a type that is not readable. -/
theorem isReadable_of_read? {s : Text} {ty : Ty} (h : read? s = some ty) : ty.IsReadable := by
  induction hn : s.length using Nat.strongRecOn generalizing s ty with
  | _ n ih =>
    rw [read?_eq] at h
    split at h
    · cases h
    next htrim =>
      split at h
      next elem helem =>
        obtain ⟨ty, hty, rfl⟩ := Option.map_eq_some_iff.1 h
        have hlength : elem.length < n := by
          have hle := Text.length_trim_le s
          rw [Text.length_of_stripSuffix? helem] at hle
          have hbrackets : "[]".toList.length = 2 := rfl
          omega
        have hread := ih elem.length hlength hty rfl
        exact ⟨hread.base_ne_nil, hread.readName?_base⟩
      next =>
        obtain ⟨htext, hbase⟩ := text_of_readName? h
        exact ⟨by rwa [hbase, htext], by rwa [hbase, htext]⟩

/-- White space in front of a type does not matter. -/
theorem read?_append_blank {a : Text} (ha : ∀ c ∈ a, isBlank c = true) (s : Text) :
    read? (a ++ s) = read? s := by
  rw [read?_eq, read?_eq s, Text.trim_append ha]

end Ty

/-! ### Signatures -/

namespace Signature

/-- Readable types are read back, whatever blanks stand in front of them. -/
theorem mapM_read?_text {pad : Text} (hpad : ∀ c ∈ pad, isBlank c = true) {tys : List Ty}
    (h : ∀ ty ∈ tys, ty.IsReadable) :
    ((tys.map Ty.text).map (pad ++ ·)).mapM Ty.read? = some tys := by
  induction tys with
  | nil => rfl
  | cons ty tys ih =>
    rw [List.forall_mem_cons] at h
    rw [List.map_cons, List.map_cons, List.mapM_cons, Ty.read?_append_blank hpad,
      h.1.read?_text, ih h.2]
    rfl

/-- **Parameters are read back**, with or without white space behind the commas. -/
theorem readParams?_join (pad : Text) (hpad : ∀ c ∈ pad, isBlank c = true) {tys : List Ty}
    (h : ∀ ty ∈ tys, ty.IsReadable) :
    readParams? (Text.join (',' :: pad) (tys.map Ty.text)) = some tys := by
  cases tys with
  | nil => rfl
  | cons ty tys =>
    rw [List.forall_mem_cons] at h
    obtain ⟨c, hc⟩ := List.exists_mem_of_ne_nil _ h.1.text_ne_nil
    have hmem : c ∈ Text.join (',' :: pad) (ty.text :: tys.map Ty.text) := by
      cases tys with
      | nil => exact hc
      | cons ty' tys => simp [Text.join, hc]
    have htrim : Text.trim (Text.join (',' :: pad) (ty.text :: tys.map Ty.text)) ≠ [] :=
      List.ne_nil_of_mem (Text.mem_trim_of_mem hmem (h.1.not_blank c hc))
    have hcomma : ∀ t ∈ ty.text :: tys.map Ty.text, ',' ∉ t := by
      intro t ht
      obtain rfl | ht := List.mem_cons.1 ht
      · exact h.1.not_mem rfl
      · obtain ⟨ty', hty', rfl⟩ := List.mem_map.1 ht
        exact (h.2 ty' hty').not_mem rfl
    have hsep : ',' ∉ pad := fun hmem => absurd (hpad _ hmem) (by decide)
    rw [List.map_cons, readParams?, if_neg htrim, Text.splitOn_join hsep hcomma, List.mapM_cons,
      h.1.read?_text, mapM_read?_text hpad h.2]
    rfl

end Signature

/-- The name of a method has no characters but those of names and angle brackets. -/
theorem IsMethodName.not_mem {s : Text} (h : IsMethodName s) {d : Char}
    (hd : Ty.isNameChar d = false) (hopen : d ≠ '<') (hclose : d ≠ '>') : d ∉ s := by
  have hspecial : ∀ c ∈ constructorName ++ "<clinit>".toList,
      Ty.isNameChar c = true ∨ c = '<' ∨ c = '>' := by decide
  intro hmem
  have hc : Ty.isNameChar d = true ∨ d = '<' ∨ d = '>' := by
    obtain hword | rfl | rfl := h
    · exact .inl (hword.isNameChar d hmem)
    · exact hspecial d (List.mem_append_left _ hmem)
    · exact hspecial d (List.mem_append_right _ hmem)
  obtain hc | hc | hc := hc
  · rw [hd] at hc
    cases hc
  · exact hopen hc
  · exact hclose hc

/-- The name of a method is not empty. -/
theorem IsMethodName.ne_nil {s : Text} (h : IsMethodName s) : s ≠ [] := by
  obtain h | rfl | rfl := h
  · exact h.1
  · decide
  · decide

/-- The name of a method has no blanks. -/
theorem IsMethodName.not_blank {s : Text} (h : IsMethodName s) : ∀ c ∈ s, isBlank c = false := by
  intro c hc
  rw [Bool.eq_false_iff]
  intro hb
  refine h.not_mem (d := c) ?_ ?_ ?_ hc
  · rw [Bool.eq_false_iff]
    intro hn
    rw [isBlank_eq_false_of_isNameChar hn] at hb
    cases hb
  · rintro rfl
    cases hb
  · rintro rfl
    cases hb

namespace Signature

/-- The types of the signature are readable, and no white space surrounds its name. -/
structure IsReadable (sig : Signature) : Prop where
  ret : sig.ret.IsReadable
  name : Text.IsTight sig.name
  params : ∀ ty ∈ sig.params, ty.IsReadable

/-- Well-formed signatures are readable. -/
theorem WellFormed.isReadable {sig : Signature} (h : sig.WellFormed) : sig.IsReadable :=
  ⟨h.ret.isReadable, Text.isTight_of_forall h.name.ne_nil h.name.not_blank,
    fun ty hty => (h.params ty hty).isReadable⟩

/-- **The parts of a signature are read back**, however the parameters are written. -/
theorem read?_parts {ret : Ty} {name params : Text} {tys : List Ty} (hret : ret.IsReadable)
    (hname : Text.IsTight name) (hparams : readParams? params = some tys) (hopen : '(' ∉ params) :
    read? (ret.text ++ ' ' :: name ++ '(' :: params ++ ")".toList) = some ⟨ret, name, tys⟩ := by
  have hform : ret.text ++ ' ' :: name ++ '(' :: params ++ ")".toList =
      ret.text ++ ' ' :: (name ++ '(' :: (params ++ ")".toList)) := by simp
  have htrim : Text.trim (ret.text ++ ' ' :: (name ++ '(' :: (params ++ ")".toList))) =
      ret.text ++ ' ' :: (name ++ '(' :: (params ++ ")".toList)) := by
    have hclose : Text.IsTight [')'] := Text.isTight_of_forall (by decide) (by decide)
    have htight := hret.isTight.append (' ' :: name ++ '(' :: params) hclose
    simpa using htight.trim_eq
  rw [hform, read?, htrim, Text.cutAtChar?_append (hret.not_mem rfl)]
  simp only [Option.bind_eq_bind, Option.bind_some]
  rw [Text.cutAtLast?_append _ (by simpa using hopen)]
  simp only [Option.bind_some, Text.stripSuffix?_append, hparams, hname.trim_eq,
    if_neg hname.ne_nil, hret.read?_text]
  rfl

/-- **Signatures are read back.** -/
theorem IsReadable.read?_text {sig : Signature} (h : sig.IsReadable) :
    read? sig.text = some sig := by
  have hopen : '(' ∉ Text.join ",".toList (sig.params.map Ty.text) :=
    Ty.not_mem_join h.params rfl (by decide)
  exact read?_parts h.ret h.name (readParams?_join [] (by simp) h.params) hopen

/-- **A well-formed signature is read back.** -/
theorem read?_text {sig : Signature} (h : sig.WellFormed) : read? sig.text = some sig :=
  h.isReadable.read?_text

end Signature

/-! ### References -/

/-- No white space surrounds the class name, and **what separates a class from its member** does not
occur in it. -/
structure ClassName.IsReadable (c : ClassName) : Prop where
  trim_eq : Text.trim c.chars = c.chars
  free : ¬ ": ".toList <:+: c.chars

/-- Well-formed names of classes are readable. -/
theorem ClassName.WellFormed.isReadable {c : ClassName} (h : c.WellFormed) : c.IsReadable :=
  ⟨h.isTight.trim_eq, fun hpart => h.not_mem rfl (hpart.subset List.mem_cons_self)⟩

/-- **References are cut** at the colon behind the class. -/
theorem cutReference?_text {cls : ClassName} (h : cls.IsReadable) (member : Text) :
    cutReference? ('<' :: cls.chars ++ ": ".toList ++ member ++ ">".toList) =
      some (cls.chars, member) := by
  have hform : '<' :: cls.chars ++ ": ".toList ++ member ++ ">".toList =
      "<".toList ++ (cls.chars ++ ": ".toList ++ member ++ ">".toList) := by simp
  have htrim : Text.trim ('<' :: cls.chars ++ ": ".toList ++ member ++ ">".toList) =
      '<' :: cls.chars ++ ": ".toList ++ member ++ ">".toList := by
    have hopen : Text.IsTight ['<'] := Text.isTight_of_forall (by decide) (by decide)
    have hclose : Text.IsTight ['>'] := Text.isTight_of_forall (by decide) (by decide)
    simpa using (hopen.append (cls.chars ++ ": ".toList ++ member) hclose).trim_eq
  have hcut : Text.cutAt? ": ".toList (cls.chars ++ ": ".toList ++ member) =
      some (cls.chars, member) :=
    Text.cutAt?_pair (by decide) h.free member
  rw [cutReference?, htrim, hform, Text.stripPrefix?_append]
  simp only [Option.bind_eq_bind, Option.bind_some, Text.stripSuffix?_append, hcut]
  rw [h.trim_eq]
  rfl

/-- The class and the signature of the reference are readable. -/
structure MethodRef.IsReadable (m : MethodRef) : Prop where
  cls : m.cls.IsReadable
  sig : m.sig.IsReadable

/-- **Method references are read back.** -/
theorem MethodRef.IsReadable.read_text {m : MethodRef} (h : m.IsReadable) :
    read m.text = .ok m := by
  have hread : Signature.read m.sig.text = .ok m.sig := by
    rw [Signature.read, h.sig.read?_text]
  have hcut : cutReference? m.text = some (m.cls.chars, m.sig.text) :=
    cutReference?_text h.cls m.sig.text
  rw [read, hcut]
  simp only [hread]
  rfl

/-- A reference to a method is read back already if its signature is readable. -/
theorem MethodRef.read_text_of_isReadable {m : MethodRef} (hcls : m.cls.WellFormed)
    (hsig : m.sig.IsReadable) : read m.text = .ok m :=
  IsReadable.read_text ⟨hcls.isReadable, hsig⟩

/-- **A well-formed reference to a method is read back.** -/
theorem MethodRef.read_text {m : MethodRef} (h : m.WellFormed) : read m.text = .ok m :=
  read_text_of_isReadable h.cls h.sig.isReadable

/-- The class and the type of the reference are readable; the name has no space, and no white space
at its end. -/
structure FieldRef.IsReadable (f : FieldRef) : Prop where
  cls : f.cls.IsReadable
  ty : f.ty.IsReadable
  name_not_mem : ' ' ∉ f.name
  name_last : ∃ rest c, f.name = rest ++ [c] ∧ isBlank c = false

/-- Well-formed references to fields are readable. -/
theorem FieldRef.WellFormed.isReadable {f : FieldRef} (h : f.WellFormed) : f.IsReadable :=
  ⟨h.cls.isReadable, h.ty.isReadable, h.name.not_mem rfl, h.name.isTight.last⟩

/-- **Field references are read back.** -/
theorem FieldRef.IsReadable.read?_text {f : FieldRef} (h : f.IsReadable) :
    read? f.text = some f := by
  have hform : f.text = '<' :: f.cls.chars ++ ": ".toList ++ (f.ty.text ++ ' ' :: f.name) ++
      ">".toList := by simp [text]
  have htight : Text.IsTight (f.ty.text ++ ' ' :: f.name) := by
    obtain ⟨rest, c, hname, hc⟩ := h.name_last
    have hlast : Text.IsTight [c] := Text.isTight_of_forall (by simp) (by simpa using hc)
    simpa [hname] using h.ty.isTight.append (' ' :: rest) hlast
  have hcut : cutReference? f.text = some (f.cls.chars, f.ty.text ++ ' ' :: f.name) := by
    rw [hform]
    exact cutReference?_text h.cls _
  rw [read?, hcut]
  simp only [Option.bind_eq_bind, Option.bind_some, htight.trim_eq]
  rw [Text.cutAtLast?_append _ h.name_not_mem]
  simp only [Option.bind_some, h.ty.read?_text]
  rfl

/-- **A well-formed reference to a field is read back.** -/
theorem FieldRef.read?_text {f : FieldRef} (h : f.WellFormed) : read? f.text = some f :=
  h.isReadable.read?_text

end Weaver
