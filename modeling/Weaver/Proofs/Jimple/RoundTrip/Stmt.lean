import Mathlib.Data.List.Basic
import Weaver.Jimple.Reader.Stmt
import Weaver.Proofs.Jimple.RoundTrip.Call

/-!
# Reading Back Statements

A statement is told by its first word. What the printer writes first is a keyword only
where the reader expects one: locals are no keywords, and the references that an assignment
may begin with have a point or a bracket in their first word. No blank of the left-hand
side stands outside of references, so that ` = ` is first found where it was put.

## Main results

* `Value.IsTarget.cutOutside?`: **assignments are cut where they were joined**.
* `Stmt.isOwnLine_identity`, `Stmt.isOwnLine_assign`, `Stmt.isOwnLine_invoke`,
  `Stmt.isOwnLine_ret`, `Stmt.isOwnLine_verbatim`: each form of statement is read back.
-/

namespace Weaver

/-! ### First words -/

/-- The keywords of statements are letters only. -/
theorem isAlpha_of_mem_stmtKeywords {w : Text} (h : w ∈ stmtKeywords) :
    ∀ c ∈ w, c.isAlpha = true := by
  have hall : ∀ w ∈ stmtKeywords, ∀ c ∈ w, c.isAlpha = true := by decide
  exact hall w h

/-- A word with another character is no keyword of statements. -/
theorem not_mem_stmtKeywords {w : Text} {c : Char} (hc : c ∈ w) (halpha : c.isAlpha = false) :
    w ∉ stmtKeywords := by
  intro h
  rw [isAlpha_of_mem_stmtKeywords h c hc] at halpha
  cases halpha

/-- The keywords of calls are among those of statements. -/
theorem keyword_mem_stmtKeywords (kind : CallKind) : kind.keyword ∈ stmtKeywords := by
  cases kind <;> decide

/-- What is no keyword of statements is no kind of call. -/
theorem ofKeyword?_eq_none {w : Text} (h : w ∉ stmtKeywords) : CallKind.ofKeyword? w = none := by
  cases hk : CallKind.ofKeyword? w with
  | none => rfl
  | some kind => exact absurd (CallKind.ofKeyword?_eq_some hk ▸ keyword_mem_stmtKeywords kind) h

/-- The first word of a reference to a field, and what follows it. -/
theorem FieldRef.WellFormed.first_word {f : FieldRef} (h : f.WellFormed) :
    ∃ w d rest, f.text = '<' :: w ++ ' ' :: d :: rest ∧ (∀ c ∈ w, isBlank c = false) ∧ d ≠ ':' := by
  obtain ⟨d, tail, hd⟩ := List.exists_cons_of_ne_nil h.ty.text_ne_nil
  refine ⟨f.cls.chars ++ [':'], d, tail ++ ' ' :: f.name ++ ['>'], ?_, ?_, ?_⟩
  · simp [FieldRef.text, hd]
  · intro c hc
    obtain hc | hc := List.mem_append.1 hc
    · exact isBlank_eq_false_of_isNameChar (h.cls.chars c hc)
    · obtain rfl := List.mem_singleton.1 hc
      rfl
  · rintro rfl
    exact h.ty.not_mem (d := ':') rfl (hd ▸ List.mem_cons_self)

/-- What stands in front of a colon that follows the first word. -/
theorem identityParts?_eq_none {w : Text} (hw : ∀ c ∈ w, isBlank c = false) {d : Char}
    (hd : d ≠ ':') (rest : Text) : identityParts? (w ++ ' ' :: d :: rest) = none := by
  have hblank : ∀ c ∈ w, (!isBlank c) = true := fun c hc => by rw [hw c hc]; rfl
  have htake : (w ++ ' ' :: d :: rest).takeWhile (fun c => !isBlank c) = w := by
    rw [List.takeWhile_append_of_pos hblank, List.takeWhile_cons_of_neg (by decide),
      List.append_nil]
  have hdrop : (w ++ ' ' :: d :: rest).dropWhile (fun c => !isBlank c) = ' ' :: d :: rest := by
    rw [List.dropWhile_append_of_pos hblank, List.dropWhile_cons_of_neg (by decide)]
  have hprefix : Text.stripPrefix? " := @".toList (' ' :: d :: rest) = none :=
    Text.stripPrefix?_eq_none_of_head (p := "= @".toList) (s := rest) hd
  rw [identityParts?, htake, hdrop, hprefix]
  cases w <;> rfl

/-- What has no keyword in front and no colon behind its first word has **no form with a
keyword**. -/
theorem isPlainLine_of_word {w : Text} (hw : ∀ c ∈ w, isBlank c = false) (hfree : w ∉ stmtKeywords)
    {d : Char} (hd : d ≠ ':') {rest : Text} (h : IsStmtLine (w ++ ' ' :: d :: rest)) :
    IsPlainLine (w ++ ' ' :: d :: rest) where
  toIsStmtLine := h
  notReturn := by
    have hspace : ' ' ∉ w := fun hmem => by cases hw ' ' hmem
    have hne : w ≠ "return".toList := by
      rintro rfl
      exact hfree (by decide)
    constructor
    · intro heq
      have hmem : ' ' ∈ w ++ ' ' :: d :: rest := by simp
      rw [heq] at hmem
      exact absurd hmem (by decide)
    · have hprefix : Text.stripPrefix? "return ".toList (w ++ ' ' :: d :: rest) = none :=
        Text.stripPrefix?_eq_none_of_word "return".toList (by decide) hspace hne _
      rw [Text.startsWith, hprefix]
      rfl
  notIdentity := identityParts?_eq_none hw hd rest
  noCall := by
    intro word rest' hcut
    have hspace : ' ' ∉ w := fun hmem => by cases hw ' ' hmem
    rw [Text.cutAtChar?_append hspace, Option.some.injEq, Prod.mk.injEq] at hcut
    rw [← hcut.1]
    exact ofKeyword?_eq_none hfree

/-! ### Lines -/

/-- A line that begins with the name of a local is no comment and no switch. -/
theorem IsLocal.isStmtLine {name : Text} (h : IsLocal name) {c : Char} (hc : isWordChar c = false)
    (rest : Text) (hline : '\n' ∉ c :: rest) : IsStmtLine (name ++ c :: rest) where
  line := by
    rw [List.mem_append, not_or]
    exact ⟨h.isWord.not_mem rfl, hline⟩
  head := by
    obtain ⟨d, tail, hname, hd⟩ := h.isWord.isTight.head
    exact ⟨d, tail ++ c :: rest, by rw [hname, List.cons_append], hd⟩
  notComment := by
    obtain ⟨-, d, tail, hname, hword, -⟩ := isLocalName_spec h.form
    rw [hname, List.cons_append]
    refine Text.startsWith_of_head ?_
    rintro rfl
    cases hword
  notSwitch := by
    have htable : c ∉ "tableswitch".toList := by
      have hall : ∀ d ∈ "tableswitch".toList, isWordChar d = true := by decide
      intro hmem
      rw [hall c hmem] at hc
      cases hc
    have hlookup : c ∉ "lookupswitch".toList := by
      have hall : ∀ d ∈ "lookupswitch".toList, isWordChar d = true := by decide
      intro hmem
      rw [hall c hmem] at hc
      cases hc
    rw [beginsSwitch, Text.startsWith_append_cons htable, Text.startsWith_append_cons hlookup]
    exact h.notSwitch

/-- The first character tells that a line is no comment and no switch. -/
theorem isStmtLine_of_head (c : Char) (rest : Text) (hblank : isBlank c = false)
    (hc : c ∉ ['/', 't', 'l']) (hline : '\n' ∉ rest) : IsStmtLine (c :: rest) where
  line := by
    rw [List.mem_cons, not_or]
    refine ⟨?_, hline⟩
    rintro rfl
    cases hblank
  head := ⟨c, rest, rfl, hblank⟩
  notComment := by
    refine Text.startsWith_of_head ?_
    rintro rfl
    exact hc (by decide)
  notSwitch := by
    have htable : Text.startsWith (c :: rest) "tableswitch".toList = false := by
      refine Text.startsWith_of_head ?_
      rintro rfl
      exact hc (by decide)
    have hlookup : Text.startsWith (c :: rest) "lookupswitch".toList = false := by
      refine Text.startsWith_of_head ?_
      rintro rfl
      exact hc (by decide)
    rw [beginsSwitch, htable, hlookup]
    rfl

/-! ### Line feeds -/

/-- A signature is on one line. -/
theorem Signature.WellFormed.line {sig : Signature} (h : sig.WellFormed) : '\n' ∉ sig.text := by
  have hret := h.ret.not_mem (d := '\n') rfl
  have hname := h.name.not_mem (d := '\n') rfl (by decide) (by decide)
  have hparams : '\n' ∉ Text.join ",".toList (sig.params.map Ty.text) :=
    Ty.not_mem_join h.isReadable.params rfl (by decide)
  rw [Signature.text]
  simp only [List.mem_append, List.mem_cons, not_or]
  exact ⟨⟨⟨hret, by decide, hname⟩, by decide, hparams⟩, by decide⟩

/-- A reference to a method is on one line. -/
theorem MethodRef.WellFormed.line {m : MethodRef} (h : m.WellFormed) : '\n' ∉ m.text := by
  have hcls := h.cls.not_mem (d := '\n') rfl
  simp [MethodRef.text, hcls, h.sig.line]

/-- An invocation is on one line. -/
theorem Call.WellFormed.line {e : Invocation} (h : e.WellFormed) : '\n' ∉ e.text := by
  have hkeyword : '\n' ∉ e.kind.keyword := CallKind.not_mem_keyword rfl e.kind
  have htarget : '\n' ∉ e.target := by
    rw [target]
    split
    next base hbase =>
      have hb := (h.base base hbase).isWord.not_mem (d := '\n') rfl
      simp [hb, h.method.line]
    · exact h.method.line
  have hargs : '\n' ∉ e.argsText := by
    refine Text.not_mem_join (by decide) fun t ht => ?_
    obtain ⟨v, hv, rfl⟩ := List.mem_map.1 ht
    exact (h.args v hv).text_spec.line
  rw [e.text_eq]
  simp [hkeyword, htarget, hargs]

/-- What can be assigned is on one line. -/
theorem Value.IsSource.line {v : Value} (h : v.IsSource) : '\n' ∉ v.text := by
  obtain h | ⟨e, rfl, h⟩ | ⟨code, rfl, h⟩ := h
  · exact h.text_spec.line
  · rw [text_call]
    exact h.line
  · exact h.line

/-! ### Assignments -/

namespace Value

/-- **Assignments are cut where they were joined.** -/
theorem IsTarget.cutOutside? {lhs rhs : Value} (h : lhs.IsTarget rhs) :
    Text.cutOutside? " = ".toList .outside (lhs.text ++ " = ".toList ++ rhs.text) =
      some (lhs.text, rhs.text) := by
  have hwalk : ∀ {a : Text}, Zone.walk (fun d => d != ' ') .outside a (some ' ') = some .outside →
      Text.cutOutside? " = ".toList .outside (a ++ " = ".toList ++ rhs.text) =
        some (a, rhs.text) :=
    fun ha => Text.cutOutside?_append (p := "= ".toList) (by decide) (by decide) ha rhs.text
  have hplain : ∀ {a : Text}, (∀ c ∈ a, IsPlainChar c) →
      ∀ c ∈ a, (c != ' ') = true ∧ c ≠ '"' ∧ c ≠ '<' := by
    intro a ha c hc
    obtain ⟨hblank, hquote, hopen, -⟩ := ha c hc
    refine ⟨bne_iff_ne.2 ?_, hquote, hopen⟩
    rintro rfl
    cases hblank
  have hlocal : ∀ {name : Text}, IsLocal name → ∀ c ∈ name, IsPlainChar c :=
    fun hname c hc => isPlainChar_of_isNameChar (hname.isWord.isNameChar c hc)
  cases lhs with
  | var name => exact hwalk (Zone.walk_plain (hplain (hlocal h)))
  | instanceField base f =>
    obtain ⟨hbase, hf⟩ : IsLocal base ∧ f.WellFormed := h
    have hform : (instanceField base f).text = base ++ ['.'] ++ f.text := by
      simp [text]
    have hchars : ∀ c ∈ base ++ ['.'], IsPlainChar c := by
      intro c hc
      obtain hc | hc := List.mem_append.1 hc
      · exact hlocal hbase c hc
      · obtain rfl := List.mem_singleton.1 hc
        exact isPlainChar_of_isNameChar rfl
    rw [hform]
    refine hwalk ?_
    rw [Zone.walk_append, Zone.walk_plain (hplain hchars), Option.bind_some, hf.isOpaque]
  | staticField f => exact hwalk (FieldRef.WellFormed.isOpaque h _ _)
  | verbatim code =>
    obtain ⟨-, hcut, -⟩ := h
    exact Text.cutOutside?_extend hcut rhs.text
  | const c => cases h
  | alloc cls => cases h
  | call e => cases h

/-- The left-hand sides of assignments are read back. -/
theorem IsTarget.read_text {lhs rhs : Value} (h : lhs.IsTarget rhs) :
    Value.read lhs.text = .ok lhs := by
  cases lhs with
  | var name => exact IsSource.read_text (.inl h)
  | instanceField base f => exact IsSource.read_text (.inl h)
  | staticField f => exact IsSource.read_text (.inl h)
  | verbatim code => exact IsSource.read_text (.inr (.inr ⟨code, rfl, h.1⟩))
  | const c => cases h
  | alloc cls => cases h
  | call e => cases h

/-- An assignment has **no form with a keyword**. -/
theorem IsTarget.isPlainLine {lhs rhs : Value} (h : lhs.IsTarget rhs) (hrhs : rhs.IsSource) :
    IsPlainLine (lhs.text ++ " = ".toList ++ rhs.text) := by
  have hline := hrhs.line
  -- The first word is none of the keywords, whatever the target.
  cases lhs with
  | var name =>
    have hname : IsLocal name := h
    have hform : (var name).text ++ " = ".toList ++ rhs.text =
        name ++ ' ' :: '=' :: ' ' :: rhs.text := by
      simp [text]
    rw [hform]
    refine isPlainLine_of_word hname.isWord.not_blank hname.free (by decide) ?_
    exact hname.isStmtLine rfl _ (by simp [hline])
  | instanceField base f =>
    obtain ⟨hbase, hf⟩ : IsLocal base ∧ f.WellFormed := h
    obtain ⟨w, d, rest, hw, hblank, hd⟩ := hf.first_word
    have hform : (instanceField base f).text ++ " = ".toList ++ rhs.text =
        (base ++ '.' :: '<' :: w) ++ ' ' :: d :: (rest ++ ' ' :: '=' :: ' ' :: rhs.text) := by
      simp [text, hw]
    rw [hform]
    refine isPlainLine_of_word ?_ (not_mem_stmtKeywords (c := '.') (by simp) rfl) hd ?_
    · intro c hc
      simp only [List.mem_append, List.mem_cons] at hc
      obtain hc | rfl | rfl | hc := hc
      · exact hbase.isWord.not_blank c hc
      · rfl
      · rfl
      · exact hblank c hc
    · have hstart := hbase.isStmtLine (c := '.') rfl
        (f.text ++ ' ' :: '=' :: ' ' :: rhs.text) (by simp [hf.line, hline])
      rw [hw] at hstart
      simpa using hstart
  | staticField f =>
    have hf : f.WellFormed := h
    obtain ⟨w, d, rest, hw, hblank, hd⟩ := hf.first_word
    have hform : (staticField f).text ++ " = ".toList ++ rhs.text =
        ('<' :: w) ++ ' ' :: d :: (rest ++ ' ' :: '=' :: ' ' :: rhs.text) := by
      simp [text, hw]
    have hfeed : '\n' ∉ '<' :: w ++ ' ' :: d :: rest := hw ▸ hf.line
    rw [hform]
    refine isPlainLine_of_word ?_ (not_mem_stmtKeywords (c := '<') (by simp) rfl) hd ?_
    · rw [List.forall_mem_cons]
      exact ⟨rfl, hblank⟩
    · refine isStmtLine_of_head _ _ rfl (by decide) ?_
      simp only [List.cons_append, List.mem_cons, List.mem_append, not_or] at hfeed
      simp [hfeed, hline]
  | verbatim code => exact h.2.2
  | const c => cases h
  | alloc cls => cases h
  | call e => cases h

end Value

/-! ### Statements -/

namespace Stmt

/-- A statement that is read back from a line of its own. -/
structure IsOwnLine (s : Stmt) : Prop where
  line : IsStmtLine s.text
  read : Stmt.read s.text = .ok s

/-- A line that nothing else claims is read as an assignment. -/
theorem read_of_isPlainLine {code : Text} (h : IsPlainLine code) :
    Stmt.read code = Stmt.readAssign code := by
  obtain ⟨hne, hprefix⟩ := h.notReturn
  have hstrip : Text.stripPrefix? "return ".toList code = none := by
    rw [Text.startsWith, Option.isSome_eq_false_iff, Option.isNone_iff_eq_none] at hprefix
    exact hprefix
  rw [Stmt.read, if_neg hne, hstrip]
  simp only [readEffect, h.notIdentity, h.noCall.read?]
  rfl

/-- **A verbatim statement is read back.** -/
theorem isOwnLine_verbatim {code : Text} (h : IsPlainCode code) : IsOwnLine (.verbatim code) where
  line := h.toIsStmtLine
  read := by
    have hform : (verbatim code).text = code := rfl
    rw [hform, read_of_isPlainLine h.toIsPlainLine, readAssign, h.notAssign]

/-- **An assignment is read back.** -/
theorem isOwnLine_assign {lhs rhs : Value} (h : lhs.IsTarget rhs) (hrhs : rhs.IsSource) :
    IsOwnLine (.assign lhs rhs) where
  line := (h.isPlainLine hrhs).toIsStmtLine
  read := by
    have hform : (assign lhs rhs).text = lhs.text ++ " = ".toList ++ rhs.text := rfl
    rw [hform, read_of_isPlainLine (h.isPlainLine hrhs), readAssign, h.cutOutside?]
    simp only [h.read_text, hrhs.read_text]
    rfl

/-- A call is no return and no identity statement. -/
theorem isOwnLine_invoke {e : Invocation} (h : e.WellFormed) : IsOwnLine (.invoke e) := by
  have hhead : ∀ c ∈ ['v', 's', 'i'], c ∉ ['/', 't', 'l'] ∧ c ≠ 'r' := by decide
  have htarget : ∃ d rest, e.target = d :: rest ∧ d ≠ ':' := by
    rw [Call.target]
    split
    next base hbase =>
      obtain ⟨-, d, tail, hname, hword, -⟩ := isLocalName_spec (h.base base hbase).form
      refine ⟨d, tail ++ '.' :: e.method.text, by rw [hname, List.cons_append], ?_⟩
      rintro rfl
      cases hword
    · exact ⟨'<', e.method.inner ++ ['>'], by rw [e.method.text_eq]; rfl, by decide⟩
  obtain ⟨⟨c, tail, hc, hmem⟩, hletters⟩ := e.kind.keyword_spec
  obtain ⟨hchead, hret⟩ := hhead c hmem
  obtain ⟨d, rest, hd, hcolon⟩ := htarget
  have hblank : ∀ c ∈ e.kind.keyword, isBlank c = false :=
    fun c hc => isBlank_eq_false_of_isAlpha (hletters c hc)
  have hform : (invoke e).text = e.text := rfl
  have hcons : e.text = c :: (tail ++ ' ' :: (e.target ++ ('(' :: e.argsText ++ ")".toList))) := by
    rw [e.text_eq, hc, List.cons_append]
  constructor
  · have hline : '\n' ∉ e.text := h.line
    rw [hform]
    rw [hcons] at hline ⊢
    exact isStmtLine_of_head c _ (hblank c (hc ▸ List.mem_cons_self)) hchead
      fun hmem => hline (List.mem_cons_of_mem _ hmem)
  · have hne : e.text ≠ "return".toList := by
      rw [hcons]
      intro heq
      exact hret (List.cons.inj heq).1
    have hstrip : Text.stripPrefix? "return ".toList e.text = none := by
      rw [hcons]
      exact Text.stripPrefix?_eq_none_of_head hret
    have hidentity : identityParts? e.text = none := by
      rw [e.text_eq, hd]
      exact identityParts?_eq_none hblank hcolon _
    rw [hform, Stmt.read, if_neg hne, hstrip]
    simp only [readEffect, hidentity, Call.read?_text h]
    rfl

/-- **A return is read back**, with or without a value. -/
theorem isOwnLine_ret {value : Option Value} (h : ∀ v ∈ value, v.IsOperand) :
    IsOwnLine (.ret value) := by
  cases value with
  | none => exact ⟨isStmtLine_of_head 'r' _ rfl (by decide) (by decide), rfl⟩
  | some v =>
    have hv : v.IsOperand := h v rfl
    have hform : (ret (some v)).text = "return ".toList ++ v.text := rfl
    constructor
    · refine isStmtLine_of_head 'r' ("eturn ".toList ++ v.text) rfl (by decide) ?_
      rw [List.mem_append, not_or]
      exact ⟨by decide, hv.text_spec.line⟩
    · have hne : "return ".toList ++ v.text ≠ "return".toList := by
        intro heq
        have hmem : ' ' ∈ "return ".toList ++ v.text := List.mem_append_left _ (by decide)
        rw [heq] at hmem
        exact absurd hmem (by decide)
      have hread : Value.read v.text = .ok v := hv.read_text
      rw [hform, Stmt.read, if_neg hne, Text.stripPrefix?_append]
      simp only [hread]
      rfl

end Stmt

/-! ### Identity statements -/

/-- The parts of an identity statement. -/
def IdentityRhs.source : IdentityRhs → IdentitySource
  | .this _ => .this
  | .parameter index _ => .parameter (natText index.toNat)
  | .caughtException => .caughtException

/-- The type that an identity statement gives. -/
def IdentityRhs.ty? : IdentityRhs → Option Ty
  | .this ty => some ty
  | .parameter _ ty => some ty
  | .caughtException => none

/-- The type behind the source of an identity statement is cut off. -/
theorem identityTail?_text {ty : Ty} (h : ty.WellFormed) :
    identityTail? (": ".toList ++ ty.text) = some (some ty.text) := by
  have hne : ty.text.isEmpty = false := by
    rw [List.isEmpty_eq_false_iff]
    exact h.text_ne_nil
  have hline : List.contains ty.text '\n' = false := by
    rw [Bool.eq_false_iff, Ne, List.contains_iff_mem]
    exact h.not_mem rfl
  have hprefix : Text.stripPrefix? ": ".toList (':' :: ' ' :: ty.text) = some ty.text := rfl
  change identityTail? (':' :: ' ' :: ty.text) = _
  rw [identityTail?, hprefix]
  · simp only [hne, hline, Bool.or_self, Bool.false_eq_true, if_false]
  · exact List.cons_ne_nil _ _

/-- **The right-hand sides of identity statements are cut** into source and type. -/
theorem IdentityRhs.WellFormed.cut? {rhs : IdentityRhs} (h : rhs.WellFormed) :
    ∃ t rest, rhs.text = '@' :: t ∧ IdentitySource.cut? t = some (rhs.source, rest) ∧
      identityTail? rest = some (rhs.ty?.map Ty.text) := by
  cases rhs with
  | this ty =>
    refine ⟨"this".toList ++ (": ".toList ++ ty.text), ": ".toList ++ ty.text, rfl, ?_, ?_⟩
    · rw [IdentitySource.cut?, Text.stripPrefix?_append]
      rfl
    · exact identityTail?_text h
  | parameter index ty =>
    have hdigits : ∀ c ∈ natText index.toNat, c.isDigit = true := fun c => isDigit_of_mem_natText
    refine ⟨"parameter".toList ++ (natText index.toNat ++ (": ".toList ++ ty.text)),
      ": ".toList ++ ty.text, ?_, ?_, ?_⟩
    · change "@parameter".toList ++ natText index.toNat ++ ": ".toList ++ ty.text = _
      rw [List.append_assoc, List.append_assoc]
      rfl
    · have htake : (natText index.toNat ++ (": ".toList ++ ty.text)).takeWhile Char.isDigit =
          natText index.toNat := by
        rw [List.takeWhile_append_of_pos hdigits]
        change natText index.toNat ++ (':' :: ' ' :: ty.text).takeWhile Char.isDigit = _
        rw [List.takeWhile_cons_of_neg (by decide), List.append_nil]
      have hdrop : (natText index.toNat ++ (": ".toList ++ ty.text)).dropWhile Char.isDigit =
          ": ".toList ++ ty.text := by
        rw [List.dropWhile_append_of_pos hdigits]
        change (':' :: ' ' :: ty.text).dropWhile Char.isDigit = _
        rw [List.dropWhile_cons_of_neg (by decide)]
        rfl
      have hthis : ∀ s, Text.stripPrefix? "this".toList ("parameter".toList ++ s) = none :=
        fun s => rfl
      have hcaught : ∀ s, Text.stripPrefix? "caughtexception".toList ("parameter".toList ++ s) =
          none := fun s => rfl
      rw [IdentitySource.cut?, hthis]
      simp only [hcaught, Text.stripPrefix?_append, htake, hdrop]
      split
      next hnil => exact absurd hnil (natText_ne_nil _)
      · rfl
    · exact identityTail?_text h
  | caughtException => exact ⟨"caughtexception".toList, [], rfl, rfl, rfl⟩

/-- An identity statement is put together again from its parts. -/
theorem IdentityRhs.ofParts_source (rhs : IdentityRhs) :
    ofParts rhs.source rhs.ty? = .ok rhs := by
  cases rhs with
  | this ty => rfl
  | parameter index ty =>
    have hlt : natOfDigits (natText index.toNat) < UInt64.size := by
      rw [natOfDigits_natText]
      exact index.toNat_lt
    rw [source, ty?, ofParts, if_pos hlt, natOfDigits_natText, UInt64.ofNat_toNat]
  | caughtException => rfl

/-- The type of an identity statement is read back. -/
theorem IdentityRhs.WellFormed.readIdentityType {rhs : IdentityRhs} (h : rhs.WellFormed) :
    readIdentityType (rhs.ty?.map Ty.text) = .ok rhs.ty? := by
  have hread : ∀ {ty : Ty}, ty.WellFormed →
      Weaver.readIdentityType (some ty.text) = .ok (some ty) := by
    intro ty hty
    rw [Weaver.readIdentityType, Ty.read?_text hty]
  cases rhs with
  | this ty => exact hread h
  | parameter index ty => exact hread h
  | caughtException => rfl

/-- The right-hand side of an identity statement is on one line. -/
theorem IdentityRhs.WellFormed.line {rhs : IdentityRhs} (h : rhs.WellFormed) : '\n' ∉ rhs.text := by
  cases rhs with
  | this ty =>
    change '\n' ∉ "@this: ".toList ++ ty.text
    rw [List.mem_append, not_or]
    exact ⟨by decide, Ty.WellFormed.not_mem h rfl⟩
  | parameter index ty =>
    change '\n' ∉ "@parameter".toList ++ natText index.toNat ++ ": ".toList ++ ty.text
    rw [List.mem_append, List.mem_append, List.mem_append, not_or, not_or, not_or]
    refine ⟨⟨⟨by decide, fun hmem => ?_⟩, by decide⟩, Ty.WellFormed.not_mem h rfl⟩
    cases isDigit_of_mem_natText hmem
  | caughtException => decide

/-- **An identity statement is read back.** -/
theorem Stmt.isOwnLine_identity {name : Text} (hname : IsLocal name) {rhs : IdentityRhs}
    (h : rhs.WellFormed) : IsOwnLine (.identity name rhs) := by
  obtain ⟨t, rest, htext, hcut, htail⟩ := h.cut?
  have hform : (identity name rhs).text = name ++ ' ' :: ':' :: '=' :: ' ' :: rhs.text :=
    List.append_assoc name " := ".toList rhs.text
  have hline : IsStmtLine (name ++ ' ' :: ':' :: '=' :: ' ' :: rhs.text) :=
    hname.isStmtLine rfl _ (by simp [h.line])
  have hplain : ∀ c ∈ name, (!isBlank c) = true := fun c hc => by
    rw [hname.isWord.not_blank c hc]
    rfl
  have hparts : identityParts? (name ++ ' ' :: ':' :: '=' :: ' ' :: rhs.text) =
      some (name, rhs.source, rhs.ty?.map Ty.text) := by
    have htake : (name ++ ' ' :: ':' :: '=' :: ' ' :: rhs.text).takeWhile (fun c => !isBlank c) =
        name := by
      rw [List.takeWhile_append_of_pos hplain, List.takeWhile_cons_of_neg (by decide),
        List.append_nil]
    have hdrop : (name ++ ' ' :: ':' :: '=' :: ' ' :: rhs.text).dropWhile (fun c => !isBlank c) =
        " := @".toList ++ t := by
      rw [List.dropWhile_append_of_pos hplain, List.dropWhile_cons_of_neg (by decide), htext]
      rfl
    rw [identityParts?, htake, hdrop, Text.stripPrefix?_append]
    split
    · exact absurd rfl hname.isWord.1
    · simp only [Option.bind_eq_bind, Option.bind_some, hcut, htail]
      rfl
  constructor
  · rw [hform]
    exact hline
  · have hspace : ' ' ∉ name := hname.isWord.not_mem rfl
    have hne : name ≠ "return".toList := by
      rintro rfl
      exact hname.free (by decide)
    have hcode : name ++ ' ' :: ':' :: '=' :: ' ' :: rhs.text ≠ "return".toList := by
      intro heq
      have hmem : ' ' ∈ name ++ ' ' :: ':' :: '=' :: ' ' :: rhs.text := by simp
      rw [heq] at hmem
      exact absurd hmem (by decide)
    have hstrip : Text.stripPrefix? "return ".toList
        (name ++ ' ' :: ':' :: '=' :: ' ' :: rhs.text) = none :=
      Text.stripPrefix?_eq_none_of_word "return".toList (by decide) hspace hne _
    rw [hform, Stmt.read, if_neg hcode, hstrip]
    simp only [readEffect, hparts, h.readIdentityType, bind, Except.bind, rhs.ofParts_source]
    rfl

end Weaver
