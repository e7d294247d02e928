import Mathlib.Data.List.Forall2
import Weaver.Proofs.Jimple.Renaming.Marking
import Weaver.Proofs.Jimple.RoundTrip.Declaration

/-!
# Recognising Marked Code

What the reader takes a marked text for, it took the text for before the mark: every form is
recognised by punctuation and by fixed words, and neither comes with the mark. Hence verbatim
code stays verbatim when a local is replaced in it, with one exception: the word behind `new`
is the name of a class unless it is a type word, so that a local must not be called by one.

## Main results

* `Marked.read?_isSome`, `Marked.readDeclaration?_eq_none`: types and declarations.
* `Marked.readSimple`: **no form of a value comes with the mark**.
* `Marked.identityParts?_isSome`: identity statements.
-/

namespace Weaver

/-- What is related to something is something. -/
theorem exists_of_rel_some {α β : Type} {R : α → β → Prop} {x : Option α} {b : β}
    (h : Option.Rel R x (some b)) : ∃ a, x = some a ∧ R a b := by
  cases h with
  | some h => exact ⟨_, rfl, h⟩

/-- To something, only something is related. -/
theorem exists_of_some_rel {α β : Type} {R : α → β → Prop} {a : α} {y : Option β}
    (h : Option.Rel R (some a) y) : ∃ b, y = some b ∧ R a b := by
  cases h with
  | some h => exact ⟨_, rfl, h⟩

/-- Only nothing is related to nothing. -/
theorem eq_none_of_rel {α β : Type} {R : α → β → Prop} {x : Option α}
    (h : Option.Rel R x none) : x = none := by
  cases h
  rfl

/-- What is there only if something else is there is not there without it. -/
theorem eq_none_of_imp {α β : Type} {x : Option α} {y : Option β} (h : y.isSome → x.isSome)
    (hx : x = none) : y = none := by
  rw [hx] at h
  exact Option.not_isSome_iff_eq_none.1 fun hy => Bool.false_ne_true (h hy)

/-- Each element of the first list is related to one of the second. -/
theorem exists_of_forall₂ {α β : Type} {R : α → β → Prop} {as : List α} {bs : List β}
    (h : List.Forall₂ R as bs) {a : α} (ha : a ∈ as) : ∃ b ∈ bs, R a b := by
  induction h with
  | nil => cases ha
  | @cons a₀ b₀ as bs hab _ ih =>
    obtain rfl | ha := List.mem_cons.1 ha
    · exact ⟨b₀, List.mem_cons_self, hab⟩
    · obtain ⟨b, hb, hab⟩ := ih ha
      exact ⟨b, List.mem_cons_of_mem _ hb, hab⟩

namespace Marked

variable {w : Text} {run : Bool} {s s' : Text}

/-- **A fixed beginning** that the mark cannot take part in does not appear. -/
theorem startsWith {p : Text} (hp : unmarkable run p = true) (h : Marked w run s s')
    (hs : Text.startsWith s p = false) : Text.startsWith s' p = false := by
  rw [Text.startsWith, Option.isSome_eq_false_iff, Option.isNone_iff_eq_none,
    Text.stripPrefix?_eq_none_iff] at hs ⊢
  rintro r' hs'
  obtain ⟨r, hr, -⟩ := h.stripPrefix hp hs'
  exact hs r hr

/-- The characters of the text remain. -/
theorem subset (h : Marked w run s s') : ∀ c ∈ s, c ∈ s' := by
  induction h with
  | nil => simp
  | char _ ih =>
    intro c hc
    obtain rfl | hc := List.mem_cons.1 hc
    · exact List.mem_cons_self
    · exact List.mem_cons_of_mem _ (ih c hc)
  | word _ _ ih =>
    intro c hc
    rw [replacedName_eq, List.mem_append, List.mem_append]
    obtain hc | hc := List.mem_append.1 hc
    · exact .inl (.inr hc)
    · exact .inr (ih c hc)

/-- Behind a character of words, a word has no mark. -/
theorem eq_of_run (h : Marked w true s s') (hs : ∀ c ∈ s, isWordChar c = true) : s' = s := by
  induction s generalizing s' with
  | nil =>
    cases h
    rfl
  | cons c s ih =>
    rw [List.forall_mem_cons] at hs
    cases h with
    | char h =>
      rw [hs.1] at h
      rw [ih h hs.2]

/-- **A marked word** is the word, or the mark stands in front of it. -/
theorem eq_or_of_word (h : Marked w false s s') (hs : ∀ c ∈ s, isWordChar c = true) :
    s' = s ∨ s = w ∧ s' = Substitution.replacedName w := by
  cases h with
  | nil => exact .inl rfl
  | @char _ c s s' h =>
    rw [List.forall_mem_cons] at hs
    rw [hs.1] at h
    exact .inl (by rw [h.eq_of_run hs.2])
  | @word s s' hend h =>
    cases s with
    | nil =>
      cases h
      exact .inr ⟨List.append_nil w, List.append_nil _⟩
    | cons c s =>
      have hc := hs c (List.mem_append_right _ List.mem_cons_self)
      rw [hend c rfl] at hc
      cases hc

/-- What reads as the name of a type with the mark reads as one without it. -/
theorem readName?_isSome (h : Marked w run s s') (hs' : (Ty.readName? s').isSome) :
    (Ty.readName? s).isSome := by
  have hall : (∀ c ∈ s', Ty.isNameChar c = true) → (Ty.readName? s).isSome := by
    intro hall
    have hs : s.all Ty.isNameChar = true :=
      List.all_eq_true.2 fun c hc => hall c (h.subset c hc)
    unfold Ty.readName?
    split
    · rfl
    · rw [if_pos hs]
      rfl
  unfold Ty.readName? at hs'
  split at hs'
  next t ht =>
    have htext : t.text = s' := by simpa using List.find?_some ht
    have hmem : t ∈ Ty.named := List.mem_of_find?_eq_some ht
    have hwords : ∀ t ∈ Ty.named, ∀ c ∈ t.text, Ty.isNameChar c = true := by decide
    exact hall (htext ▸ hwords t hmem)
  · split at hs'
    next hchars => exact hall (List.all_eq_true.1 hchars)
    · cases hs'

variable (hw : isLocalName w = true)
include hw

/-- Punctuation alone has no mark. -/
theorem eq_of_punctuation (h : Marked w run s s') (hs : ∀ c ∈ s, isWordChar c = false) :
    s' = s := by
  induction h with
  | nil => rfl
  | char h ih =>
    rw [List.forall_mem_cons] at hs
    rw [ih hs.2]
  | word hend h ih =>
    obtain ⟨hall, c, rest, hform, hc, -⟩ := isLocalName_spec hw
    have hno := hs c (List.mem_append_left _ (by simp [hform]))
    rw [hc] at hno
    cases hno

/-! ### White space around a text -/

/-- Marking brings no white space to the end. -/
theorem trimEnd_eq (h : Marked w run s s') (hs : Text.trimEnd s = s) : Text.trimEnd s' = s' := by
  induction h with
  | nil => rfl
  | @char run c s s' h ih =>
    rw [Text.trimEnd_cons] at hs ⊢
    split at hs
    · cases hs
    next hc =>
      have htail := (List.cons.inj hs).2
      rw [if_neg fun hc' => hc ⟨((h.trimEnd hw).eq_nil_iff hw).2 hc'.1, hc'.2⟩, ih htail]
  | @word s s' hend h ih =>
    rw [(isWord_of_isLocalName hw).trimEnd, List.append_cancel_left_eq] at hs
    rw [(isWord_replacedName hw).trimEnd, ih hs]

/-- Marking brings no white space to the beginning. -/
theorem trimStart_eq (h : Marked w run s s') (hs : Text.trimStart s = s) :
    Text.trimStart s' = s' := by
  rw [Text.trimStart] at hs ⊢
  cases h with
  | nil => rfl
  | @char _ c s s' h =>
    by_cases hc : isBlank c = true
    · rw [List.dropWhile_cons_of_pos hc] at hs
      have hlength := congrArg List.length hs
      have := Text.length_dropWhile_le isBlank s
      simp only [List.length_cons] at hlength
      omega
    · rw [List.dropWhile_cons_of_neg hc]
  | @word s s' hend h =>
    obtain ⟨c, v, hform⟩ := List.exists_cons_of_ne_nil (isWord_replacedName hw).1
    have hblank := isBlank_eq_false_of_isNameChar
      (isNameChar_of_isWordChar ((isWord_replacedName hw).2 c (by simp [hform])))
    rw [hform, List.cons_append, List.dropWhile_cons_of_neg (by simp [hblank])]

/-- **A text without white space around it** stays one. -/
theorem trim_eq (h : Marked w run s s') (hs : Text.trim s = s) : Text.trim s' = s' := by
  have hsuffix : Text.trimStart s <:+ s := List.dropWhile_suffix _
  have hprefix : Text.trimEnd (Text.trimStart s) <+: Text.trimStart s := Text.trimEnd_prefix _
  rw [Text.trim] at hs
  have hstart : Text.trimStart s = s := by
    refine hsuffix.eq_of_length_le ?_
    have hle := hprefix.length_le
    rwa [hs] at hle
  rw [Text.trim, h.trimStart_eq hw hstart, h.trimEnd_eq hw (by rwa [hstart] at hs)]

/-! ### First words -/

/-- What is no invocation is none with the marks. -/
theorem isNoCall (h : Marked w run s s') (hs : IsNoCall s) : IsNoCall s' := by
  intro word' rest' hcut
  have hrel := h.cutAtChar? hw (c := ' ') rfl
  rw [hcut] at hrel
  obtain ⟨⟨word, rest⟩, hcut, hword, -⟩ := exists_of_rel_some hrel
  by_contra hsome
  obtain ⟨kind, hkind⟩ := Option.ne_none_iff_exists'.1 hsome
  obtain rfl := CallKind.ofKeyword?_eq_some hkind
  have hkeyword : unmarkable false kind.keyword = true := by cases kind <;> decide
  obtain rfl := hword.relax.eq_of_unmarkable hkeyword
  rw [hs _ _ hcut] at hkind
  cases hkind

/-! ### Types and declarations -/

/-- A fixed end without words. -/
theorem stripSuffix? {c : Char} {p : Text} (hp : ∀ d ∈ c :: p, isWordChar d = false)
    (h : Marked w run s s') :
    Option.Rel (Marked w run) (Text.stripSuffix? (c :: p) s) (Text.stripSuffix? (c :: p) s') := by
  have hc : isWordChar c = false := hp c List.mem_cons_self
  cases hs' : Text.stripSuffix? (c :: p) s' with
  | some a' =>
    rw [Text.stripSuffix?_eq_some_iff] at hs'
    obtain ⟨a, b, rfl, ha, hb⟩ := h.split_right hw hc hs'
    have hr : 'r' ∉ p := fun hmem => absurd (hp 'r' (List.mem_cons_of_mem _ hmem)) (by decide)
    rw [hb.eq_of_not_mem hr, Text.stripSuffix?_append]
    exact .some ha
  | none =>
    have hs : Text.stripSuffix? (c :: p) s = none := by
      rw [Text.stripSuffix?_eq_none_iff] at hs' ⊢
      rintro a rfl
      obtain ⟨a', b', rfl, -, hb⟩ := h.split_left hw hc rfl
      exact hs' a' (by rw [hb.eq_of_punctuation hw fun d hd => hp d (List.mem_cons_of_mem _ hd)])
    rw [hs]
    exact .none

/-- **Types**: what reads as a type with the mark reads as one without it. -/
theorem read?_isSome (h : Marked w run s s') (hs' : (Ty.read? s').isSome) :
    (Ty.read? s).isSome := by
  induction hn : s'.length using Nat.strongRecOn generalizing run s s' with
  | _ n ih =>
    have htrim := h.trim hw
    rw [Ty.read?_eq] at hs' ⊢
    split at hs'
    · cases hs'
    next hne =>
      rw [if_neg ((htrim.eq_nil_iff hw).not.2 hne)]
      have hsuffix : Option.Rel (Marked w false) (Text.stripSuffix? "[]".toList (Text.trim s))
          (Text.stripSuffix? "[]".toList (Text.trim s')) :=
        htrim.stripSuffix? hw (by decide)
      split at hs'
      next elem' helem' =>
        rw [helem'] at hsuffix
        obtain ⟨elem, helem, hmarked⟩ := exists_of_rel_some hsuffix
        rw [helem]
        rw [Option.isSome_map] at hs' ⊢
        refine ih elem'.length ?_ hmarked hs' rfl
        have hlength := Text.length_trim_le s'
        rw [Text.stripSuffix?_eq_some_iff.1 helem', List.length_append] at hlength
        have htwo : "[]".toList.length = 2 := rfl
        omega
      next hnone =>
        rw [hnone] at hsuffix
        rw [eq_none_of_rel hsuffix]
        exact htrim.readName?_isSome hs'

/-- **Classes**: what reads as a class with the mark reads as one without it, unless the mark
stands in front of a type word. -/
theorem read?_ref (hty : ∀ t ∈ Ty.named, t.text ≠ w) {cls' : ClassName} (h : Marked w run s s')
    (hs' : Ty.read? s' = some (.ref cls')) : ∃ cls, Ty.read? s = some (.ref cls) := by
  have htrim := h.trim hw
  have hsuffix : Option.Rel (Marked w false) (Text.stripSuffix? "[]".toList (Text.trim s))
      (Text.stripSuffix? "[]".toList (Text.trim s')) :=
    htrim.stripSuffix? hw (by decide)
  rw [Ty.read?_eq] at hs' ⊢
  split at hs'
  · cases hs'
  next hne =>
    rw [if_neg ((htrim.eq_nil_iff hw).not.2 hne)]
    split at hs'
    next elem' _ =>
      obtain ⟨t, -, ht⟩ := Option.map_eq_some_iff.1 hs'
      cases ht
    next hnone =>
      rw [hnone] at hsuffix
      rw [eq_none_of_rel hsuffix]
      -- A type word has no mark, so it would have been read as itself.
      have hname : ∀ t ∈ Ty.named, t.text ≠ Text.trim s := by
        intro t ht hform
        have hword : ∀ t ∈ Ty.named, ∀ c ∈ t.text, isWordChar c = true := by decide
        obtain hsame | ⟨hw', -⟩ := htrim.eq_or_of_word (hform ▸ hword t ht)
        · have hread : ∀ t ∈ Ty.named, Ty.readName? t.text = some t ∧ t.className? = none := by
            decide
          obtain ⟨hself, hprimitive⟩ := hread t ht
          rw [hsame, ← hform, hself] at hs'
          obtain rfl := Option.some.inj hs'
          cases hprimitive
        · exact hty t ht (hform.trans hw')
      obtain ⟨ty, hread⟩ := Option.isSome_iff_exists.1 (htrim.readName?_isSome (by rw [hs']; rfl))
      rw [hread]
      unfold Ty.readName? at hread
      split at hread
      next t ht =>
        exact absurd (by simpa using List.find?_some ht) (hname t (List.mem_of_find?_eq_some ht))
      · split at hread
        · exact ⟨_, hread.symm⟩
        · cases hread

/-- **Names of locals.** -/
theorem isLocalName_of_marked (h : Marked w false s s') (hs' : isLocalName s' = true) :
    isLocalName s = true := by
  have hword : ∀ c ∈ s, isWordChar c = true :=
    fun c hc => (isLocalName_spec hs').1 c (h.subset c hc)
  obtain rfl | ⟨rfl, -⟩ := h.eq_or_of_word hword
  · exact hs'
  · exact hw

/-- **Pieces between punctuation marks.** -/
theorem splitOn {c : Char} (hc : isWordChar c = false) (h : Marked w run s s') :
    List.Forall₂ (Marked w false) (Text.splitOn c s) (Text.splitOn c s') := by
  induction hn : s.length using Nat.strongRecOn generalizing run s s' with
  | _ n ih =>
    by_cases hmem : c ∈ s
    · obtain ⟨a, b, rfl, ha⟩ := List.eq_append_cons_of_mem hmem
      obtain ⟨a', b', rfl, hmarked, hb⟩ := h.split_left hw hc rfl
      rw [Text.splitOn_append ha, Text.splitOn_append ((hmarked.mem_iff hw hc).not.1 ha)]
      refine .cons hmarked.relax (ih b.length ?_ hb rfl)
      simp only [List.length_append, List.length_cons] at hn
      omega
    · rw [Text.splitOn_of_not_mem hmem, Text.splitOn_of_not_mem ((h.mem_iff hw hc).not.1 hmem)]
      exact .cons h.relax .nil

/-- **Declarations**, unless the mark stands in front of a keyword. -/
theorem readDeclaration?_eq_none (hfree : w ∉ stmtKeywords) (h : Marked w run s s')
    (hs : readDeclaration? s = none) : readDeclaration? s' = none := by
  rw [Option.eq_none_iff_forall_ne_some] at hs ⊢
  intro ls' hls'
  obtain ⟨ty', names', t', rfl, hblank, hfree', ht', hnames', -⟩ :=
    readDeclaration?_eq_some_iff.1 hls'
  obtain ⟨ty, rest, rfl, hty, hrest⟩ :=
    h.split_right hw rfl (show _ = ty' ++ ' ' :: (names' ++ ";".toList) by simp)
  obtain ⟨names, last, rfl, hnames, hlast⟩ :=
    hrest.split_right hw rfl (show _ = names' ++ ';' :: [] from rfl)
  obtain rfl := (hlast.eq_nil_iff hw).2 rfl
  obtain ⟨t, ht⟩ := Option.isSome_iff_exists.1 (hty.read?_isSome hw (by rw [ht']; rfl))
  -- A keyword would have kept its form.
  have hkeyword : ty ∉ stmtKeywords := by
    intro hmem
    have hword : ∀ c ∈ ty, isWordChar c = true :=
      fun c hc =>
        isWordChar_of_isAlphanum (isAlphanum_iff.2 (.inl (isAlpha_of_mem_stmtKeywords hmem c hc)))
    obtain hsame | ⟨rfl, -⟩ := hty.relax.eq_or_of_word hword
    · exact hfree' (hsame ▸ hmem)
    · exact hfree hmem
  refine hs _ (readDeclaration?_eq_some_iff.2 ⟨ty, names, t, by simp, ?_, hkeyword, ht, ?_, rfl⟩)
  · exact (hty.mem_iff hw rfl).not.2 hblank
  · intro name hname
    obtain ⟨name', hname', hmarked⟩ :=
      exists_of_forall₂ (hnames.splitOn hw rfl) hname
    exact (hmarked.trim hw).isLocalName_of_marked hw (hnames' name' hname')

/-! ### Values -/

/-- A punctuation mark in front was there before. -/
theorem exists_cons {c : Char} (hc : isWordChar c = false) {t' : Text}
    (h : Marked w run s (c :: t')) : ∃ t, s = c :: t ∧ Marked w false t t' := by
  obtain ⟨a, t, rfl, ha, ht⟩ := h.split_right hw hc (show _ = [] ++ c :: t' from rfl)
  obtain rfl := (ha.eq_nil_iff hw).2 rfl
  exact ⟨t, rfl, ht⟩

/-- A string literal in the marked text was one before. -/
theorem readString?_isSome (h : Marked w run s s') (hs' : (readString? s').isSome) :
    (readString? s).isSome := by
  unfold readString? at hs'
  split at hs'
  next rest' =>
    obtain ⟨rest, rfl, hrest⟩ := h.exists_cons hw rfl
    have hsuffix : Option.Rel (Marked w false) (Text.stripSuffix? "\"".toList rest)
        (Text.stripSuffix? "\"".toList rest') :=
      hrest.stripSuffix? hw (by decide)
    split at hs'
    next inner' hinner' =>
      rw [hinner'] at hsuffix
      obtain ⟨inner, hinner, -⟩ := exists_of_rel_some hsuffix
      rw [← h.hasOutside hw] at hs'
      split at hs'
      · cases hs'
      next hout =>
        rw [readString?]
        simp only [hinner, if_neg hout]
        rfl
    · cases hs'
  · cases hs'

/-- A class constant in the marked text was one before. -/
theorem readClassConstant?_isSome (h : Marked w false s s')
    (hs' : (readClassConstant? s').isSome) : (readClassConstant? s).isSome := by
  rw [readClassConstant?, Option.isSome_map] at hs' ⊢
  obtain ⟨name', hname'⟩ := Option.isSome_iff_exists.1 hs'
  obtain ⟨rest', hrest', hname'⟩ := Option.bind_eq_some_iff.1 hname'
  obtain ⟨rest, rfl, hrest⟩ := h.stripPrefix (by decide) (Text.stripPrefix?_eq_some_iff.1 hrest')
  have hsuffix : Option.Rel (Marked w false) (Text.stripSuffix? "\"".toList rest)
      (Text.stripSuffix? "\"".toList rest') :=
    hrest.stripSuffix? hw (by decide)
  rw [hname'] at hsuffix
  obtain ⟨name, hname, -⟩ := exists_of_rel_some hsuffix
  rw [Text.stripPrefix?_append, Option.bind_some, hname]
  rfl

omit hw in
/-- **Numbers have no mark.** -/
theorem eq_of_number (h : Marked w run s s') (hs' : (readIntConstant? s').isSome ∨
    (readLongConstant? s').isSome ∨ (readFloating? s').isSome) : s = s' := by
  refine h.eq_of_not_mem fun hr => ?_
  obtain hs' | hs' | hs' := hs'
  · rw [Constant.readIntConstant?_eq_none hr rfl (by decide)] at hs'
    cases hs'
  · unfold readLongConstant? at hs'
    split at hs'
    next n hn =>
      obtain ⟨digits, hdigits, hn⟩ := Option.bind_eq_some_iff.1 hn
      rw [Text.stripSuffix?_eq_some_iff.1 hdigits, List.mem_append] at hr
      rw [readInt?_eq_none (hr.resolve_right (by decide)) rfl (by decide)] at hn
      cases hn
    · cases hs'
  · unfold readFloating? at hs'
    split at hs'
    next hfloat =>
      obtain ⟨c, a, rfl, -, hchars⟩ := isFloatText_chars hfloat
      obtain hr | hr := List.mem_append.1 hr
      · exact absurd (hchars 'r' hr) (by decide)
      · exact absurd hr (by decide)
    · split at hs'
      next hdouble =>
        obtain ⟨c, a, rfl, -, -, hchars⟩ := isDoubleText_chars hdouble
        exact absurd (hchars 'r' hr) (by decide)
      · cases hs'

/-- A constant in the marked text was one before. -/
theorem constant_read?_isSome (h : Marked w false s s') (hs' : (Constant.read? s').isSome) :
    (Constant.read? s).isSome := by
  unfold Constant.read? at hs' ⊢
  split at hs'
  next hnull =>
    rw [if_pos]
    · rfl
    · exact (hnull ▸ h).eq_of_unmarkable (by decide)
  next hnull =>
    split
    · rfl
    · simp only [Option.isSome_or, Bool.or_eq_true] at hs' ⊢
      obtain hs' | hs' | hs' := hs'
      · exact .inl (h.readString?_isSome hw hs')
      · exact .inr (.inl (h.readClassConstant?_isSome hw hs'))
      · have hsame := h.eq_of_number hs'
        exact .inr (.inr (hsame ▸ hs'))

/-- An allocation in the marked text was one before, unless the word is that of a type. -/
theorem readAlloc?_isSome (hty : ∀ t ∈ Ty.named, t.text ≠ w) (h : Marked w false s s')
    (hs' : (readAlloc? s').isSome) : (readAlloc? s).isSome := by
  unfold readAlloc? at hs'
  split at hs'
  next cls' hcls' =>
    obtain ⟨name', hname', hcls'⟩ := Option.bind_eq_some_iff.1 hcls'
    obtain ⟨name, rfl, hname⟩ := h.stripPrefix (by decide) (Text.stripPrefix?_eq_some_iff.1 hname')
    obtain ⟨cls, hcls⟩ := hname.read?_ref hw hty hcls'
    rw [readAlloc?, Text.stripPrefix?_append, Option.bind_some, hcls]
    rfl
  · cases hs'

/-- **References**: the class and the member are cut apart at the same place. -/
theorem cutReference? {cls' member' : Text} (h : Marked w run s s')
    (hs' : Weaver.cutReference? s' = some (cls', member')) :
    ∃ cls member, Weaver.cutReference? s = some (cls, member) ∧ Marked w false member member' := by
  simp only [Weaver.cutReference?, Option.bind_eq_bind, Option.bind_eq_some_iff, Prod.exists]
    at hs' ⊢
  obtain ⟨t', ht', inner', hinner', c', m', hcut', hpair⟩ := hs'
  obtain ⟨-, rfl⟩ := Prod.mk.inj (Option.some.inj hpair)
  rw [Text.stripPrefix?_eq_some_iff] at ht'
  obtain ⟨t, ht, hmarked⟩ := (ht' ▸ h.trim hw).exists_cons hw (c := '<') rfl
  have hsuffix : Option.Rel (Marked w false) (Text.stripSuffix? ">".toList t)
      (Text.stripSuffix? ">".toList t') :=
    hmarked.stripSuffix? hw (by decide)
  rw [hinner'] at hsuffix
  obtain ⟨inner, hinner, hmarked⟩ := exists_of_rel_some hsuffix
  have hcut : Option.Rel (MarkedPieces w false) (Text.cutAt? ": ".toList inner)
      (Text.cutAt? ": ".toList inner') :=
    hmarked.cutAt? hw (by decide)
  rw [hcut'] at hcut
  obtain ⟨⟨c, m⟩, hcut, -, hm⟩ := exists_of_rel_some hcut
  exact ⟨Text.trim c, m, ⟨t, by rw [ht]; rfl, inner, hinner, c, m, hcut, rfl⟩, hm⟩

/-- A reference to a field in the marked text was one before. -/
theorem fieldRef_read?_isSome (h : Marked w run s s') (hs' : (FieldRef.read? s').isSome) :
    (FieldRef.read? s).isSome := by
  obtain ⟨f', hf'⟩ := Option.isSome_iff_exists.1 hs'
  simp only [FieldRef.read?, Option.bind_eq_bind, Option.bind_eq_some_iff, Prod.exists] at hf'
  obtain ⟨cls', member', hcut', ty', name', hlast', t', ht', -⟩ := hf'
  obtain ⟨cls, member, hcut, hmember⟩ := h.cutReference? hw hcut'
  have hlast := (hmember.trim hw).cutAtLast? hw (c := ' ') rfl
  rw [hlast'] at hlast
  obtain ⟨⟨ty, name⟩, hlast, hty, -⟩ := exists_of_rel_some hlast
  obtain ⟨t, ht⟩ := Option.isSome_iff_exists.1 (hty.read?_isSome hw (by rw [ht']; rfl))
  simp only [FieldRef.read?, hcut, hlast, ht, Option.bind_eq_bind, Option.bind_some]
  rfl

/-- A closed reference to a field in the marked text was one before. -/
theorem readClosedField?_isSome (h : Marked w run s s') (hs' : (readClosedField? s').isSome) :
    (readClosedField? s).isSome := by
  unfold readClosedField? at hs'
  split at hs'
  next inner' hcut' =>
    have hcut := h.cutClosed? hw 0
    rw [hcut'] at hcut
    obtain ⟨⟨inner, rest⟩, hcut, -, hrest⟩ := exists_of_rel_some hcut
    obtain rfl : rest = [] := (hrest.eq_nil_iff hw).2 rfl
    rw [readClosedField?, hcut]
    exact h.fieldRef_read?_isSome hw hs'
  · cases hs'

/-- A static field in the marked text was one before. -/
theorem readStaticField?_isSome (h : Marked w run s s') (hs' : (readStaticField? s').isSome) :
    (readStaticField? s).isSome := by
  unfold readStaticField? at hs'
  split at hs'
  next rest' =>
    obtain ⟨rest, rfl, -⟩ := h.exists_cons hw rfl
    rw [Option.isSome_map] at hs'
    rw [readStaticField?, Option.isSome_map]
    exact h.readClosedField?_isSome hw hs'
  · cases hs'

/-- A field of an object in the marked text was one before. -/
theorem readInstanceField?_isSome (h : Marked w false s s')
    (hs' : (readInstanceField? s').isSome) : (readInstanceField? s).isSome := by
  unfold readInstanceField? at hs'
  split at hs'
  next base' rest' hcut' =>
    have hcut : Option.Rel (MarkedPieces w false) (Text.cutAt? ".<".toList s)
        (Text.cutAt? ".<".toList s') :=
      h.cutAt? hw (by decide)
    rw [hcut'] at hcut
    obtain ⟨⟨base, rest⟩, hcut, hbase, hrest⟩ := exists_of_rel_some hcut
    split at hs'
    next hlocal =>
      rw [Option.isSome_map] at hs'
      rw [readInstanceField?, hcut]
      dsimp only
      rw [if_pos (hbase.isLocalName_of_marked hw hlocal), Option.isSome_map]
      have hopen : Marked w false ('<' :: rest) ('<' :: rest') := hrest.cons rfl
      exact hopen.readClosedField?_isSome hw hs'
    · cases hs'
  · cases hs'

/-- **No form of a value comes with the mark.** -/
theorem readSimple (hty : ∀ t ∈ Ty.named, t.text ≠ w) (h : Marked w false s s')
    (hs : Value.readSimple s = .verbatim s) : Value.readSimple s' = .verbatim s' := by
  rw [Value.readSimple_eq_verbatim_iff] at hs ⊢
  obtain ⟨hconst, halloc, hstatic, hinstance, hlocal⟩ := hs
  refine ⟨eq_none_of_imp (h.constant_read?_isSome hw) hconst,
    eq_none_of_imp (h.readAlloc?_isSome hw hty) halloc,
    eq_none_of_imp (h.readStaticField?_isSome hw) hstatic,
    eq_none_of_imp (h.readInstanceField?_isSome hw) hinstance, ?_⟩
  rw [Bool.eq_false_iff] at hlocal ⊢
  exact fun hs' => hlocal (h.isLocalName_of_marked hw hs')

/-! ### Identity statements -/

omit hw in
/-- Digits behind a character of words have no mark. -/
theorem takeWhile_isDigit_of_run (h : Marked w true s s') :
    s.takeWhile Char.isDigit = s'.takeWhile Char.isDigit ∧
      Marked w false (s.dropWhile Char.isDigit) (s'.dropWhile Char.isDigit) := by
  induction s generalizing s' with
  | nil =>
    cases h
    exact ⟨rfl, .nil⟩
  | cons c s ih =>
    cases h with
    | @char _ _ _ s' h =>
      by_cases hc : c.isDigit = true
      · rw [isWordChar_of_isAlphanum (isAlphanum_iff.2 (.inr hc))] at h
        obtain ⟨htake, hdrop⟩ := ih h
        rw [List.takeWhile_cons_of_pos hc, List.takeWhile_cons_of_pos hc, htake,
          List.dropWhile_cons_of_pos hc, List.dropWhile_cons_of_pos hc]
        exact ⟨rfl, hdrop⟩
      · rw [List.takeWhile_cons_of_neg hc, List.takeWhile_cons_of_neg hc,
          List.dropWhile_cons_of_neg hc, List.dropWhile_cons_of_neg hc]
        exact ⟨rfl, .char h⟩

omit hw in
/-- Digits in front of a marked text are the digits in front of the text. -/
theorem takeWhile_isDigit (h : Marked w false s s') (hs' : s'.takeWhile Char.isDigit ≠ []) :
    s.takeWhile Char.isDigit = s'.takeWhile Char.isDigit ∧
      Marked w false (s.dropWhile Char.isDigit) (s'.dropWhile Char.isDigit) := by
  cases h with
  | nil => exact absurd rfl hs'
  | @char _ c s s' h =>
    have hc : c.isDigit = true := by
      by_contra hc
      exact hs' (List.takeWhile_cons_of_neg hc)
    have hword := isWordChar_of_isAlphanum (isAlphanum_iff.2 (.inr hc))
    rw [hword] at h
    have hrun : Marked w true (c :: s) (c :: s') := .char (hword ▸ h)
    exact hrun.takeWhile_isDigit_of_run
  | word hend h => exact absurd rfl hs'

omit hw in
/-- The source of an identity statement in the marked text was one before. -/
theorem identitySource_cut? {source : IdentitySource} {t' : Text} (h : Marked w false s s')
    (hs' : IdentitySource.cut? s' = some (source, t')) :
    ∃ t, IdentitySource.cut? s = some (source, t) ∧ Marked w false t t' := by
  unfold IdentitySource.cut? at hs'
  split at hs'
  next rest' hthis =>
    obtain ⟨rest, rfl, hrest⟩ := h.stripPrefix (by decide) (Text.stripPrefix?_eq_some_iff.1 hthis)
    cases hs'
    exact ⟨rest, rfl, hrest⟩
  · split at hs'
    next rest' hcaught =>
      obtain ⟨rest, rfl, hrest⟩ :=
        h.stripPrefix (by decide) (Text.stripPrefix?_eq_some_iff.1 hcaught)
      cases hs'
      exact ⟨rest, rfl, hrest⟩
    · split at hs'
      next rest' hparameter =>
        obtain ⟨rest, rfl, hrest⟩ :=
          h.stripPrefix (by decide) (Text.stripPrefix?_eq_some_iff.1 hparameter)
        split at hs'
        · cases hs'
        next hne =>
          obtain ⟨htake, hdrop⟩ := hrest.takeWhile_isDigit fun hnil => hne hnil
          cases hs'
          refine ⟨_, ?_, hdrop⟩
          have hthis : Text.stripPrefix? "this".toList ("parameter".toList ++ rest) = none :=
            Text.stripPrefix?_eq_none_of_head (by decide)
          have hcaught : Text.stripPrefix? "caughtexception".toList
              ("parameter".toList ++ rest) = none :=
            Text.stripPrefix?_eq_none_of_head (by decide)
          rw [IdentitySource.cut?, hthis, hcaught, Text.stripPrefix?_append]
          simp only [htake]
      · cases hs'

/-- What may follow this source in the marked text could before. -/
theorem identityTail?_isSome (h : Marked w false s s') (hs' : (identityTail? s').isSome) :
    (identityTail? s).isSome := by
  unfold identityTail? at hs' ⊢
  split at hs'
  · obtain rfl := (h.eq_nil_iff hw).2 rfl
    rfl
  next hne =>
    split
    · rfl
    have htail : Option.Rel (Marked w false) (Text.stripPrefix? ": ".toList s)
        (Text.stripPrefix? ": ".toList s') :=
      h.stripPrefix? hw (by decide)
    split at hs'
    next ty' hty' =>
      rw [hty'] at htail
      obtain ⟨ty, hty, hmarked⟩ := exists_of_rel_some htail
      have hempty : ty.isEmpty = ty'.isEmpty := by
        rw [Bool.eq_iff_iff, List.isEmpty_iff, List.isEmpty_iff]
        exact hmarked.eq_nil_iff hw
      have hfeed : List.contains ty '\n' = List.contains ty' '\n' := by
        rw [Bool.eq_iff_iff, List.contains_iff_mem, List.contains_iff_mem]
        exact hmarked.mem_iff hw rfl
      rw [hty]
      simp only [hempty, hfeed]
      split at hs'
      · cases hs'
      next hplain => rw [if_neg hplain]; rfl
    · cases hs'

/-- **An identity statement in the marked text was one before.** -/
theorem identityParts?_isSome (h : Marked w run s s') (hs' : (identityParts? s').isSome) :
    (identityParts? s).isSome := by
  have hword : ∀ c, isWordChar c = true → (!isBlank c) = true := by
    intro c hc
    rw [isBlank_eq_false_of_isNameChar (isNameChar_of_isWordChar hc)]
    rfl
  have htake := h.takeWhile hw hword
  have hdrop := h.dropWhile hw hword
  unfold identityParts? at hs' ⊢
  split at hs'
  · cases hs'
  next hname' =>
    split
    next hname => exact absurd ((htake.eq_nil_iff hw).1 hname) hname'
    obtain ⟨parts', hparts'⟩ := Option.isSome_iff_exists.1 hs'
    simp only [Option.bind_eq_bind, Option.bind_eq_some_iff, Prod.exists] at hparts'
    obtain ⟨rest', hrest', source, t', hcut', ty', hty', -⟩ := hparts'
    have hsign : Option.Rel (Marked w false)
        (Text.stripPrefix? " := @".toList (s.dropWhile fun c => !isBlank c))
        (Text.stripPrefix? " := @".toList (s'.dropWhile fun c => !isBlank c)) :=
      hdrop.stripPrefix? hw (by decide)
    rw [hrest'] at hsign
    obtain ⟨rest, hrest, hmarked⟩ := exists_of_rel_some hsign
    obtain ⟨t, hcut, ht⟩ := hmarked.identitySource_cut? hcut'
    obtain ⟨ty, hty⟩ := Option.isSome_iff_exists.1 (ht.identityTail?_isSome hw (by rw [hty']; rfl))
    simp only [hrest, hcut, hty, Option.bind_eq_bind, Option.bind_some]
    rfl

end Marked

end Weaver
