import Weaver.Proofs.Jimple.Renaming.Recognition
import Weaver.Proofs.Jimple.RoundTrip.Body

/-!
# Verbatim Code and Marked Words

Code that the reader keeps as it stands is still kept when the mark of a replaced local is put
into it. Expressions and statements on one line are told from other code by what they are not,
so that the mark can only take them further away. A switch is told by its first word, which
must not be the replaced local.

## Main results

* `Marked.isExpression`, `Marked.isPlainCode`, `Marked.isSwitchBlock`: **verbatim code**.
* `Marked.readDeclaration?_verbatimLine`: no declaration comes with the mark.
-/

namespace Weaver

/-- The name of a local that is not a word for a type either. -/
structure IsPlainName (name : Text) : Prop extends IsLocal name where
  noType : ∀ t ∈ Ty.named, t.text ≠ name

namespace Marked

variable {w : Text} {run : Bool} {s s' : Text}

/-! ### First words -/

/-- A word behind a character of words stays in front. -/
theorem exists_append_of_run {p r : Text} (hp : ∀ c ∈ p, isWordChar c = true)
    (h : Marked w true (p ++ r) s') : ∃ r', s' = p ++ r' := by
  induction p generalizing s' with
  | nil => exact ⟨s', rfl⟩
  | cons c p ih =>
    rw [List.forall_mem_cons] at hp
    cases h with
    | char h =>
      rw [hp.1] at h
      obtain ⟨r', rfl⟩ := ih hp.2 h
      exact ⟨r', rfl⟩

/-- **A word in front stays there** unless the replaced local begins with it. -/
theorem exists_append_of_word {p r : Text} (hp : IsWord p) (hfree : Text.startsWith w p = false)
    (h : Marked w false (p ++ r) s') : ∃ r', s' = p ++ r' := by
  have hno : ∀ a, w ≠ p ++ a := by
    rintro a rfl
    rw [Text.startsWith, Text.stripPrefix?_append] at hfree
    cases hfree
  obtain ⟨c, p, rfl⟩ := List.exists_cons_of_ne_nil hp.1
  generalize ht : (c :: p) ++ r = t at h
  cases h with
  | nil => cases ht
  | char h =>
    obtain ⟨rfl, rfl⟩ := List.cons.inj ht
    rw [hp.2 c List.mem_cons_self] at h
    obtain ⟨r', rfl⟩ := h.exists_append_of_run fun d hd => hp.2 d (List.mem_cons_of_mem _ hd)
    exact ⟨r', rfl⟩
  | word hend h =>
    obtain ⟨a, ha, -⟩ | ⟨a, ha, hs⟩ := List.append_eq_append_iff.1 ht
    · exact absurd ha (hno a)
    · cases a with
      | nil => exact absurd (by simpa using ha.symm) (hno [])
      | cons d a =>
        have hd := hp.2 d (by rw [ha]; simp)
        rw [hend d (by rw [hs]; rfl)] at hd
        cases hd

/-- What stands in front of a text is no white space, with and without the mark. -/
theorem exists_head (h : Marked w run s s')
    (hs : ∃ c rest, s = c :: rest ∧ isBlank c = false) :
    ∃ c rest, s' = c :: rest ∧ isBlank c = false := by
  obtain ⟨c, rest, rfl, hc⟩ := hs
  generalize ht : c :: rest = t at h
  cases h with
  | nil => cases ht
  | char h =>
    obtain ⟨rfl, rfl⟩ := List.cons.inj ht
    exact ⟨c, _, rfl, hc⟩
  | word hend h => exact ⟨'r', _, rfl, rfl⟩

section

variable (hw : IsLocal w)
include hw

/-! ### One line -/

/-- **Lines that begin a switch.** -/
theorem beginsSwitch_eq (h : Marked w false s s') : beginsSwitch s' = beginsSwitch s := by
  have hword : IsWord "tableswitch".toList ∧ IsWord "lookupswitch".toList := by
    constructor <;> constructor <;> decide
  have hfree := hw.notSwitch
  rw [beginsSwitch, Bool.or_eq_false_iff] at hfree
  have hsame : ∀ {p : Text}, IsWord p → Text.startsWith w p = false → unmarkable false p = true →
      Text.startsWith s' p = Text.startsWith s p := by
    intro p hp hfree hmark
    cases hs : Text.startsWith s p with
    | false => exact h.startsWith hmark hs
    | true =>
      obtain ⟨r, hr⟩ := Option.isSome_iff_exists.1 hs
      obtain ⟨r', rfl⟩ :=
        (Text.stripPrefix?_eq_some_iff.1 hr ▸ h).exists_append_of_word hp hfree
      rw [Text.startsWith, Text.stripPrefix?_append]
      rfl
  rw [beginsSwitch, beginsSwitch, hsame hword.1 hfree.1 (by decide),
    hsame hword.2 hfree.2 (by decide)]

/-- A line of code stays one with the marks. -/
theorem isStmtLine (h : Marked w false s s') (hs : IsStmtLine s) : IsStmtLine s' where
  line := (h.mem_iff hw.form rfl).not.1 hs.line
  head := h.exists_head hs.head
  notComment := h.startsWith (by decide) hs.notComment
  notSwitch := (h.beginsSwitch_eq hw).trans hs.notSwitch

/-- What is no return, no identity statement and no invocation is none with the marks. -/
theorem isPlainLine (h : Marked w false s s') (hs : IsPlainLine s) : IsPlainLine s' where
  toIsStmtLine := h.isStmtLine hw hs.toIsStmtLine
  notReturn := by
    refine ⟨fun hs' => hs.notReturn.1 ?_, h.startsWith (by decide) hs.notReturn.2⟩
    exact (hs' ▸ h).eq_of_unmarkable (by decide)
  notIdentity := eq_none_of_imp (h.identityParts?_isSome hw.form) hs.notIdentity
  noCall := h.isNoCall hw.form hs.noCall

/-- **Statements on one line.** -/
theorem isPlainCode (h : Marked w false s s') (hs : IsPlainCode s) : IsPlainCode s' where
  toIsPlainLine := h.isPlainLine hw hs.toIsPlainLine
  notAssign := by
    have hcut : Option.Rel (MarkedPieces w false) (Text.cutOutside? " = ".toList .outside s)
        (Text.cutOutside? " = ".toList .outside s') :=
      h.cutOutside? hw.form (by decide) .outside
    rw [Option.eq_none_iff_forall_ne_some]
    intro pieces hpieces
    rw [hpieces] at hcut
    obtain ⟨_, hs', -⟩ := exists_of_rel_some hcut
    rw [hs.notAssign] at hs'
    cases hs'

/-! ### Switches -/

/-- A significant line stays one with the marks. -/
theorem isSignificant (h : Marked w false s s') (hs : isSignificant s = true) :
    Weaver.isSignificant s' = true := by
  rw [Weaver.isSignificant, Bool.and_eq_true, Bool.not_eq_true', Bool.not_eq_true',
    List.isEmpty_eq_false_iff] at hs ⊢
  exact ⟨(h.eq_nil_iff hw.form).not.1 hs.1, h.startsWith (by decide) hs.2⟩

/-- The first line of a switch does not become a label. -/
theorem labelName?_eq_none (h : Marked w false s s') (hswitch : beginsSwitch s = true)
    (hs : labelName? s = none) : labelName? s' = none := by
  rw [Option.eq_none_iff_forall_ne_some] at hs ⊢
  intro name' hname'
  unfold labelName? at hname'
  split at hname'
  next label hlabel =>
    split at hname'
    next hform =>
      obtain rfl := Option.some.inj hname'
      rw [Text.stripSuffix?_eq_some_iff] at hlabel
      obtain ⟨name, colon, rfl, hmarked, hcolon⟩ :=
        h.split_right hw.form rfl (show s' = label ++ ':' :: [] from hlabel)
      obtain rfl := (hcolon.eq_nil_iff hw.form).2 rfl
      have hword : ∀ c ∈ name, isWordChar c = true :=
        fun c hc => (isLabelName_spec hform).1 c (hmarked.subset c hc)
      obtain rfl | ⟨rfl, -⟩ := hmarked.eq_or_of_word hword
      · refine hs label ?_
        have hsuffix : Text.stripSuffix? ":".toList (label ++ [':']) = some label :=
          Text.stripSuffix?_append _ _
        rw [labelName?, hsuffix]
        simp only [hform, if_true]
      · have htable : Text.startsWith (name ++ [':']) "tableswitch".toList =
            Text.startsWith name "tableswitch".toList :=
          Text.startsWith_append_cons (by decide) name []
        have hlookup : Text.startsWith (name ++ [':']) "lookupswitch".toList =
            Text.startsWith name "lookupswitch".toList :=
          Text.startsWith_append_cons (by decide) name []
        rw [beginsSwitch, htable, hlookup, ← beginsSwitch, hw.notSwitch] at hswitch
        cases hswitch
    · cases hname'
  · cases hname'

/-- **Lines**: a marked text that was joined from lines is joined from marked lines. -/
theorem exists_lines {ls : List Text} {last : Text}
    (h : Marked w false (Text.join "\n".toList (ls ++ [last])) s') :
    ∃ ls' last', s' = Text.join "\n".toList (ls' ++ [last']) ∧
      List.Forall₂ (Marked w false) ls ls' ∧ Marked w false last last' := by
  have hjoin : ∀ (l : Text) (ls : List Text) (last : Text),
      Text.join "\n".toList (l :: ls ++ [last]) =
        l ++ '\n' :: Text.join "\n".toList (ls ++ [last]) := by
    intro l ls last
    obtain ⟨m, ms, hms⟩ := List.exists_cons_of_ne_nil
      (List.append_ne_nil_of_right_ne_nil ls (List.cons_ne_nil last []))
    rw [List.cons_append, hms, Text.join_cons_cons]
    simp
  induction ls generalizing s' with
  | nil => exact ⟨[], s', rfl, .nil, h⟩
  | cons l ls ih =>
    obtain ⟨l', rest, rfl, hl, hrest⟩ := h.split_left hw.form rfl (hjoin l ls last)
    obtain ⟨ls', last', rfl, hls, hlast⟩ := ih hrest
    exact ⟨l' :: ls', last', (hjoin l' ls' last').symm, .cons hl hls, hlast⟩

/-- What a line of a switch has to be, it is with the mark as well. -/
theorem isSwitchLine (h : Marked w false s s') (hs : '\n' ∉ s ∧ Text.trim s = s ∧
    Weaver.isSignificant s = true ∧ s ≠ closingBrace ++ ";".toList) :
    '\n' ∉ s' ∧ Text.trim s' = s' ∧ Weaver.isSignificant s' = true ∧
      s' ≠ closingBrace ++ ";".toList := by
  obtain ⟨hline, htrim, hcount, hbrace⟩ := hs
  refine ⟨(h.mem_iff hw.form rfl).not.1 hline, h.trim_eq hw.form htrim,
    h.isSignificant hw hcount, ?_⟩
  rintro rfl
  exact hbrace (h.eq_of_not_mem (by decide))

/-- **Switches**, together with their first line. -/
theorem isSwitchBlock (h : Marked w false s s') (hs : IsSwitchBlock s) :
    IsSwitchBlock s' ∧ Marked w false (verbatimLine s) (verbatimLine s') := by
  obtain ⟨first, cases, rfl, hswitch, hlabel, hall⟩ := hs
  obtain ⟨lines', last', rfl, hlines, hlast⟩ := h.exists_lines hw
  obtain rfl := hlast.eq_of_punctuation hw.form (by decide)
  obtain ⟨first', cases', hfirst, -, rfl⟩ := List.forall₂_cons_left_iff.1 hlines
  have hall' : ∀ line ∈ first' :: cases', '\n' ∉ line ∧ Text.trim line = line ∧
      Weaver.isSignificant line = true ∧ line ≠ closingBrace ++ ";".toList := by
    intro line' hline'
    obtain ⟨line, hline, hmarked⟩ := exists_of_forall₂ hlines.flip hline'
    exact hmarked.isSwitchLine hw (hall line hline)
  refine ⟨⟨first', cases', rfl, (hfirst.beginsSwitch_eq hw).trans hswitch,
    hfirst.labelName?_eq_none hw hswitch hlabel, hall'⟩, ?_⟩
  have htrimmed : ∀ {ls : List Text}, (∀ line ∈ ls, '\n' ∉ line ∧ Text.trim line = line ∧
      Weaver.isSignificant line = true ∧ line ≠ closingBrace ++ ";".toList) →
      ∀ line ∈ ls, '\n' ∉ line ∧ Text.trim line = line :=
    fun hls line hline => ⟨(hls line hline).1, (hls line hline).2.1⟩
  rw [(BodyReading.lines_switch (htrimmed hall)).2.2,
    (BodyReading.lines_switch (htrimmed hall')).2.2]
  exact hfirst

/-- **Verbatim code in front** is not taken for a declaration. -/
theorem readDeclaration?_verbatimLine (h : Marked w false s s')
    (hs : IsPlainCode s ∨ IsSwitchBlock s) (hdecl : readDeclaration? (verbatimLine s) = none) :
    readDeclaration? (verbatimLine s') = none := by
  have hmarked : Marked w false (verbatimLine s) (verbatimLine s') := by
    obtain hs | hs := hs
    · rw [verbatimLine, if_neg hs.line, verbatimLine, if_neg (h.isPlainCode hw hs).line]
      exact h.append rfl .nil
    · exact (h.isSwitchBlock hw hs).2
  exact hmarked.readDeclaration?_eq_none hw.form hw.free hdecl

end

/-- **Expressions**, unless the replaced local is called by a word for a type. -/
theorem isExpression (hw : IsPlainName w) (h : Marked w false s s') (hs : IsExpression s) :
    IsExpression s' where
  line := (h.mem_iff hw.form rfl).not.1 hs.line
  trimmed := h.trim_eq hw.form hs.trimmed
  noCall := h.isNoCall hw.form hs.noCall
  other := h.readSimple hw.form hw.noType hs.other

end Marked

end Weaver
