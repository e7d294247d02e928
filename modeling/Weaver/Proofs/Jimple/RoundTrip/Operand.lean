import Weaver.Proofs.Jimple.RoundTrip.Number
import Weaver.Proofs.Jimple.RoundTrip.Reference
import Weaver.Proofs.Jimple.Zones

/-!
# Reading Back Operands

The reader tries the forms of a value one after the other. For each form that the printer
writes, all forms that are tried earlier are ruled out by a character that they need and
the text does not have, or the other way round, and the form itself reads the value back.

## Main results

* `Text.cutClosed?_brackets`: a reference ends at the bracket that closes it.
* `Value.IsOperand.text_spec`: what the written forms of operands have in common.
* `Constant.WellFormed.read?_text`: **constants are read back**.
* `Value.IsOperand.readSimple_text`: **each form is read as itself**.
-/

namespace Weaver

/-- The name of a local is a word. -/
theorem IsLocal.isWord {name : Text} (h : IsLocal name) : IsWord name := by
  obtain ⟨hall, c, rest, hname, -⟩ := isLocalName_spec h.form
  exact ⟨by rw [hname]; exact List.cons_ne_nil _ _, hall⟩

/-! ### Closed references -/

namespace Text

/-- An opening bracket goes one level deeper. -/
theorem cutClosed?_open (depth : Nat) (s : Text) :
    cutClosed? depth ('<' :: s) =
      (cutClosed? (depth + 1) s).map fun (inner, rest) => ('<' :: inner, rest) := by
  rw [cutClosed?.eq_def]
  rfl

/-- A closing bracket that is not the last goes one level up. -/
theorem cutClosed?_close (depth : Nat) (s : Text) :
    cutClosed? (depth + 2) ('>' :: s) =
      (cutClosed? (depth + 1) s).map fun (inner, rest) => ('>' :: inner, rest) := by
  rw [cutClosed?.eq_def]
  rfl

/-- The closing bracket of the first level ends the scan. -/
theorem cutClosed?_last (s : Text) : cutClosed? 1 ('>' :: s) = some (['>'], s) := by
  rw [cutClosed?.eq_def]
  rfl

/-- Any other character stays at its level. -/
theorem cutClosed?_cons {c : Char} (hopen : c ≠ '<') (hclose : c ≠ '>') (depth : Nat) (s : Text) :
    cutClosed? depth (c :: s) =
      (cutClosed? depth s).map fun (inner, rest) => (c :: inner, rest) := by
  rw [cutClosed?.eq_def]
  simp only [hopen, hclose, if_false]

/-- A closing bracket that nothing opened fails the scan. -/
theorem cutClosed?_unopened (s : Text) : cutClosed? 0 ('>' :: s) = none := by
  rw [cutClosed?.eq_def]
  rfl

/-- What is cut at the bracket that closes a reference is the whole text. -/
theorem cutClosed?_eq_some {depth : Nat} {s inner rest : Text}
    (h : cutClosed? depth s = some (inner, rest)) : s = inner ++ rest := by
  fun_induction cutClosed? depth s generalizing inner <;>
    simp only [Option.map_eq_some_iff, Prod.mk.injEq, Option.some.injEq, Prod.exists, reduceCtorEq]
      at h
  case case4 => obtain ⟨rfl, rfl⟩ := h; rfl
  all_goals
    obtain ⟨i, r, hi, rfl, rfl⟩ := h
    rename_i ih
    rw [ih hi]
    rfl

/-- A text whose brackets close each other: what is open in front of it is open behind it. -/
def Balanced (s : Text) : Prop :=
  ∀ depth rest, cutClosed? (depth + 1) (s ++ rest) =
    (cutClosed? (depth + 1) rest).map fun (inner, rest) => (s ++ inner, rest)

/-- What has no brackets is balanced. -/
theorem balanced_of_forall {s : Text} (h : ∀ c ∈ s, c ≠ '<' ∧ c ≠ '>') : Balanced s := by
  intro depth rest
  induction s with
  | nil => simp
  | cons c s ih =>
    rw [List.forall_mem_cons] at h
    rw [List.cons_append, cutClosed?_cons h.1.1 h.1.2, ih h.2, Option.map_map]
    rfl

/-- Two balanced texts in a row are balanced. -/
theorem Balanced.append {s t : Text} (hs : Balanced s) (ht : Balanced t) : Balanced (s ++ t) := by
  intro depth rest
  rw [List.append_assoc, hs, ht, Option.map_map]
  congr 1
  funext p
  simp

/-- A balanced text in brackets is balanced. -/
theorem Balanced.brackets {s : Text} (h : Balanced s) : Balanced ('<' :: s ++ ['>']) := by
  intro depth rest
  have hform : '<' :: s ++ ['>'] ++ rest = '<' :: (s ++ '>' :: rest) := by simp
  rw [hform, cutClosed?_open, h, cutClosed?_close, Option.map_map, Option.map_map]
  congr 1
  funext p
  simp

/-- **A reference ends at the bracket that closes it.** -/
theorem cutClosed?_brackets {s : Text} (h : Balanced s) (rest : Text) :
    cutClosed? 0 ('<' :: s ++ ['>'] ++ rest) = some ('<' :: s ++ ['>'], rest) := by
  have hform : '<' :: s ++ ['>'] ++ rest = '<' :: (s ++ '>' :: rest) := by simp
  rw [hform, cutClosed?_open, h, cutClosed?_last]
  simp

end Text

/-! ### References to fields -/

/-- What stands between the brackets of a field reference. -/
def FieldRef.inner (f : FieldRef) : Text :=
  f.cls.chars ++ ": ".toList ++ f.ty.text ++ ' ' :: f.name

/-- The reference stands between angle brackets. -/
theorem FieldRef.text_eq (f : FieldRef) : f.text = '<' :: f.inner ++ ['>'] := by
  simp [text, inner]

/-- A reference to a field is written in characters of types, colons and spaces. -/
theorem FieldRef.WellFormed.inner_chars {f : FieldRef} (h : f.WellFormed) :
    ∀ c ∈ f.inner, Ty.isTypeChar c = true ∨ c = ':' ∨ c = ' ' := by
  have hcolon : ∀ c ∈ ": ".toList, c = ':' ∨ c = ' ' := by decide
  intro c hc
  simp only [FieldRef.inner, List.mem_append, List.mem_cons] at hc
  obtain ((hc | hc) | hc) | rfl | hc := hc
  · exact .inl (Ty.isTypeChar_of_isNameChar (h.cls.chars c hc))
  · exact .inr (hcolon c hc)
  · exact .inl (h.ty.isTypeChar c hc)
  · exact .inr (.inr rfl)
  · exact .inl (Ty.isTypeChar_of_isNameChar (h.name.isNameChar c hc))

/-- Other characters do not occur in a reference to a field. -/
theorem FieldRef.WellFormed.not_mem_inner {f : FieldRef} (h : f.WellFormed) {d : Char}
    (hd : Ty.isTypeChar d = false) (hcolon : d ≠ ':') (hspace : d ≠ ' ') : d ∉ f.inner := by
  intro hmem
  obtain hc | hc | hc := h.inner_chars d hmem
  · rw [hd] at hc
    cases hc
  · exact hcolon hc
  · exact hspace hc

/-- Between its brackets a reference to a field has no further ones. -/
theorem FieldRef.WellFormed.no_brackets {f : FieldRef} (h : f.WellFormed) :
    ∀ c ∈ f.inner, c ≠ '<' ∧ c ≠ '>' := by
  intro c hc
  constructor
  · rintro rfl
    exact h.not_mem_inner rfl (by decide) (by decide) hc
  · rintro rfl
    exact h.not_mem_inner rfl (by decide) (by decide) hc

/-- A field reference is **opaque**. -/
theorem FieldRef.WellFormed.isOpaque {f : FieldRef} (h : f.WellFormed) (ok : Char → Bool) :
    Text.Opaque ok f.text := by
  intro next
  rw [FieldRef.text_eq]
  refine Zone.walk_reference ?_ h.no_brackets
  obtain ⟨d, rest, hd, hword, hdigit⟩ := h.cls.head
  simp [FieldRef.inner, hd, Zone.opensReference, hword, hdigit]

/-- **A closed reference to a field is read back.** -/
theorem FieldRef.WellFormed.readClosedField?_text {f : FieldRef} (h : f.WellFormed) :
    readClosedField? f.text = some f := by
  have hcut : Text.cutClosed? 0 f.text = some (f.text, []) := by
    have := Text.cutClosed?_brackets (Text.balanced_of_forall h.no_brackets) []
    rwa [List.append_nil, ← FieldRef.text_eq] at this
  rw [readClosedField?, hcut]
  exact FieldRef.read?_text h

/-! ### Words in front of an invocation -/

/-- One word is no invocation. -/
theorem isNoCall_of_not_mem {s : Text} (h : ' ' ∉ s) : IsNoCall s := by
  intro word rest hcut
  rw [Text.cutAtChar?_eq_none h] at hcut
  cases hcut

namespace CallKind

/-- The keyword of a kind of call is read back. -/
theorem ofKeyword?_keyword (kind : CallKind) : ofKeyword? kind.keyword = some kind := by
  cases kind <;> rfl

/-- The keywords of invocations are letters, and they have other first letters than those of
the other statements. -/
theorem keyword_spec (kind : CallKind) :
    (∃ c rest, kind.keyword = c :: rest ∧ c ∈ ['v', 's', 'i']) ∧
      ∀ c ∈ kind.keyword, c.isAlpha = true := by
  cases kind
  · exact ⟨⟨'v', _, rfl, by decide⟩, by decide⟩
  · exact ⟨⟨'s', _, rfl, by decide⟩, by decide⟩
  · exact ⟨⟨'i', _, rfl, by decide⟩, by decide⟩
  · exact ⟨⟨'s', _, rfl, by decide⟩, by decide⟩

/-- Keywords of calls are letters only. -/
theorem not_mem_keyword {d : Char} (hd : d.isAlpha = false) (kind : CallKind) :
    d ∉ kind.keyword := by
  intro hmem
  rw [kind.keyword_spec.2 d hmem] at hd
  cases hd

/-- Only its own keyword is read as a kind of call. -/
theorem ofKeyword?_eq_some {word : Text} {kind : CallKind} (h : ofKeyword? word = some kind) :
    word = kind.keyword := by
  have := List.find?_some h
  exact (eq_of_beq this).symm

end CallKind

/-- A text that does not begin with `v`, `s` or `i` begins with no keyword of invocations. -/
theorem isNoCall_of_head {c : Char} {s : Text} (hc : c ∉ ['v', 's', 'i']) : IsNoCall (c :: s) := by
  intro word rest hcut
  obtain ⟨hs, -⟩ := Text.cutAtChar?_eq_some hcut
  cases h : CallKind.ofKeyword? word with
  | none => rfl
  | some kind =>
    obtain ⟨⟨d, tail, hd, hmem⟩, -⟩ := kind.keyword_spec
    rw [CallKind.ofKeyword?_eq_some h, hd, List.cons_append, List.cons.injEq] at hs
    exact absurd (hs.1 ▸ hmem) hc

/-- A first word with another character than letters is no keyword of invocations. -/
theorem isNoCall_of_mem_word {word rest : Text} {c : Char} (hword : ' ' ∉ word) (hc : c ∈ word)
    (halpha : c.isAlpha = false) : IsNoCall (word ++ ' ' :: rest) := by
  intro word' rest' hcut
  rw [Text.cutAtChar?_append hword, Option.some.injEq, Prod.mk.injEq] at hcut
  obtain ⟨rfl, -⟩ := hcut
  cases h : CallKind.ofKeyword? word with
  | none => rfl
  | some kind =>
    rw [CallKind.ofKeyword?_eq_some h] at hc
    exact absurd hc (CallKind.not_mem_keyword halpha kind)

/-- Code in front of which no invocation begins is read as no invocation. -/
theorem IsNoCall.read? {s : Text} (h : IsNoCall s) : Call.read? s = .ok none := by
  have hshape : CallShape.read? s = .ok none := by
    unfold CallShape.read?
    split
    · rfl
    next word rest hcut => rw [h word rest hcut]
  rw [Call.read?]
  split
  next why hwhy => rw [hshape] at hwhy; cases hwhy
  · rfl
  next shape hsome => rw [hshape] at hsome; cases hsome

/-! ### Operands in a list of arguments -/

/-- What the written forms of operands have in common: no white space at the ends, no
keyword of an invocation in front, no comma outside, and no line feed. -/
structure IsOperandText (s : Text) : Prop where
  tight : Text.IsTight s
  noCall : IsNoCall s
  inside : Text.Opaque (fun c => c != ',') s
  line : '\n' ∉ s

/-- A character that neither ends a word or an argument nor opens a literal or a reference. -/
def IsPlainChar (c : Char) : Prop :=
  isBlank c = false ∧ c ≠ '"' ∧ c ≠ '<' ∧ c ≠ ','

/-- The characters of names are plain. -/
theorem isPlainChar_of_isNameChar {c : Char} (h : Ty.isNameChar c = true) : IsPlainChar c :=
  ⟨isBlank_eq_false_of_isNameChar h, ne_of_isNameChar h rfl, ne_of_isNameChar h rfl,
    ne_of_isNameChar h rfl⟩

/-- Digits are plain. -/
theorem isPlainChar_of_isDigit {c : Char} (h : c.isDigit = true) : IsPlainChar c :=
  isPlainChar_of_isNameChar
    (isNameChar_of_isWordChar (isWordChar_of_isAlphanum (isAlphanum_iff.2 (.inr h))))

/-- The characters of floating-point numbers are plain. -/
theorem isPlainChar_of_isFloatingChar {c : Char} (h : isFloatingChar c = true) : IsPlainChar c := by
  simp only [isFloatingChar, Bool.or_eq_true, beq_iff_eq] at h
  obtain ((((h | rfl) | rfl) | rfl) | rfl) | rfl := h
  · exact isPlainChar_of_isDigit h
  all_goals exact ⟨rfl, by decide, by decide, by decide⟩

/-- A text of plain characters can stand among arguments. -/
theorem isOperandText_of_plain {s : Text} (hne : s ≠ []) (h : ∀ c ∈ s, IsPlainChar c) :
    IsOperandText s where
  tight := Text.isTight_of_forall hne fun c hc => (h c hc).1
  noCall := isNoCall_of_not_mem fun hmem => by cases (h _ hmem).1
  inside := by
    intro next
    refine Zone.walk_plain fun c hc => ?_
    obtain ⟨-, hquote, hopen, hcomma⟩ := h c hc
    exact ⟨by simpa using hcomma, hquote, hopen⟩
  line := fun hmem => by cases (h _ hmem).1

/-- An escaped literal has no line feed. -/
theorem not_mem_escape (s : Text) : '\n' ∉ StringLiteral.escape s := by
  fun_induction StringLiteral.escape s with
  | case1 => exact List.not_mem_nil
  | case7 c s _ _ hline _ _ ih =>
    rw [List.mem_cons, not_or]
    exact ⟨fun h => hline h.symm, ih⟩
  | case2 s ih | case3 s ih | case4 s ih | case5 s ih | case6 s ih =>
    simp [ih]

/-- A quotation mark is no blank. -/
theorem isTight_quote : Text.IsTight ['"'] :=
  Text.isTight_of_forall (by decide) (by decide)

/-- A number with a plain suffix can stand among arguments. -/
theorem isOperandText_intText (n : Int) (suffix : Text) (h : ∀ c ∈ suffix, IsPlainChar c) :
    IsOperandText (intText n ++ suffix) := by
  obtain ⟨d, s, hs, -⟩ := intText_head n
  refine isOperandText_of_plain (by rw [hs]; exact List.cons_ne_nil _ _) fun d hd => ?_
  obtain hd | hd := List.mem_append.1 hd
  · obtain hd | rfl := intText_chars hd
    · exact isPlainChar_of_isDigit hd
    · exact isPlainChar_of_isFloatingChar rfl
  · exact h d hd

/-- **The written form of a constant can stand among arguments.** -/
theorem Constant.WellFormed.text_spec {c : Constant} (h : c.WellFormed) :
    IsOperandText c.text := by
  cases c with
  | int n =>
    have hspec := isOperandText_intText n.toInt [] (by simp)
    rwa [List.append_nil] at hspec
  | long n =>
    refine isOperandText_intText n.toInt "L".toList fun d hd => ?_
    obtain rfl : d = 'L' := by simpa using hd
    exact isPlainChar_of_isNameChar rfl
  | float written =>
    obtain ⟨d, a, rfl, -, hall⟩ := isFloatText_chars h
    refine isOperandText_of_plain (List.cons_ne_nil _ _) fun e he => ?_
    obtain he | he := List.mem_append.1 he
    · exact isPlainChar_of_isFloatingChar (hall e he)
    · obtain rfl := List.mem_singleton.1 he
      exact isPlainChar_of_isNameChar rfl
  | double written =>
    obtain ⟨d, a, rfl, -, -, hall⟩ := isDoubleText_chars h
    exact isOperandText_of_plain (List.cons_ne_nil _ _)
      fun e he => isPlainChar_of_isFloatingChar (hall e he)
  | null =>
    have hplain : ∀ d ∈ "null".toList, Ty.isNameChar d = true := by decide
    exact isOperandText_of_plain (by decide) fun d hd => isPlainChar_of_isNameChar (hplain d hd)
  | string v =>
    refine ⟨isTight_quote.append _ isTight_quote, isNoCall_of_head (by decide),
      fun next => Zone.walk_literal fun next => Zone.walk_escape v, ?_⟩
    change '\n' ∉ '"' :: StringLiteral.escape v ++ ['"']
    simp [not_mem_escape]
  | class_ name =>
    have hc : Text.IsTight ['c'] := Text.isTight_of_forall (by decide) (by decide)
    have hform : (class_ name).text = "class ".toList ++ ('"' :: name ++ ['"']) := rfl
    have hword : ∀ d ∈ "class ".toList, (d != ',') = true ∧ d ≠ '"' ∧ d ≠ '<' := by decide
    refine ⟨hc.append _ isTight_quote, isNoCall_of_head (by decide), fun next => ?_, ?_⟩
    · rw [hform, Zone.walk_append, Zone.walk_plain hword, Option.bind_some]
      exact Zone.walk_literal fun next =>
        Zone.walk_quoted_plain fun d hd => ⟨(h d hd).1, (h d hd).2.1⟩
    · rw [hform]
      have hname : '\n' ∉ name := fun hmem => (h _ hmem).2.2 rfl
      simp [hname]

/-- The first word of a reference to a field of a local has a point. -/
theorem isNoCall_instanceField {base : Text} (hbase : IsLocal base) {f : FieldRef}
    (h : f.WellFormed) : IsNoCall (base ++ '.' :: f.text) := by
  have hform : base ++ '.' :: f.text =
      (base ++ '.' :: '<' :: f.cls.chars ++ [':']) ++
        ' ' :: (f.ty.text ++ ' ' :: f.name ++ ['>']) := by
    simp [FieldRef.text]
  rw [hform]
  refine isNoCall_of_mem_word (c := '.') ?_ (by simp) rfl
  have hspace := hbase.isWord.not_mem (d := ' ') rfl
  have hspace' := h.cls.not_mem (d := ' ') rfl
  simp [hspace, hspace']

/-- A reference to a field has no blanks at its ends. -/
theorem FieldRef.isTight_text (f : FieldRef) : Text.IsTight f.text := by
  have hopen : Text.IsTight ['<'] := Text.isTight_of_forall (by decide) (by decide)
  have hclose : Text.IsTight ['>'] := Text.isTight_of_forall (by decide) (by decide)
  rw [FieldRef.text_eq]
  exact hopen.append f.inner hclose

/-- A reference to a field is on one line. -/
theorem FieldRef.WellFormed.line {f : FieldRef} (h : f.WellFormed) : '\n' ∉ f.text := by
  have hinner := h.not_mem_inner (d := '\n') rfl (by decide) (by decide)
  rw [FieldRef.text_eq]
  simp [hinner]

/-- **The written forms of operands.** -/
theorem Value.IsOperand.text_spec {v : Value} (h : v.IsOperand) : IsOperandText v.text := by
  cases v with
  | var name =>
    have hname : IsLocal name := h
    have hform : (var name).text = name := rfl
    rw [hform]
    exact isOperandText_of_plain hname.isWord.1
      fun c hc => isPlainChar_of_isNameChar (hname.isWord.isNameChar c hc)
  | const c => exact Constant.WellFormed.text_spec h
  | alloc cls =>
    have hcls : cls.WellFormed := h
    have hn : Text.IsTight ['n'] := Text.isTight_of_forall (by decide) (by decide)
    have hplain : ∀ c ∈ "new ".toList, (c != ',') = true ∧ c ≠ '"' ∧ c ≠ '<' := by decide
    have hname : ∀ c ∈ cls.chars, (c != ',') = true ∧ c ≠ '"' ∧ c ≠ '<' := by
      intro c hc
      obtain ⟨-, hquote, hopen, hcomma⟩ := isPlainChar_of_isNameChar (hcls.chars c hc)
      exact ⟨by simpa using hcomma, hquote, hopen⟩
    have hform : (alloc cls).text = "new ".toList ++ cls.chars := rfl
    rw [hform]
    refine ⟨hn.append "ew ".toList hcls.isTight, isNoCall_of_head (by decide), fun next => ?_, ?_⟩
    · rw [Zone.walk_append, Zone.walk_plain hplain, Option.bind_some, Zone.walk_plain hname]
    · have hline := hcls.not_mem (d := '\n') rfl
      simp [hline]
  | instanceField base f =>
    obtain ⟨hbase, hf⟩ : IsLocal base ∧ f.WellFormed := h
    have hform : (instanceField base f).text = base ++ ['.'] ++ f.text := by
      simp [text]
    have hplain : ∀ c ∈ base ++ ['.'], (c != ',') = true ∧ c ≠ '"' ∧ c ≠ '<' := by
      intro c hc
      obtain hc | hc := List.mem_append.1 hc
      · obtain ⟨-, hquote, hopen, hcomma⟩ :=
          isPlainChar_of_isNameChar (hbase.isWord.isNameChar c hc)
        exact ⟨by simpa using hcomma, hquote, hopen⟩
      · obtain rfl := List.mem_singleton.1 hc
        decide
    rw [hform]
    refine ⟨hbase.isWord.isTight.append ['.'] f.isTight_text, ?_, fun next => ?_, ?_⟩
    · simpa using isNoCall_instanceField hbase hf
    · rw [Zone.walk_append, Zone.walk_plain hplain, Option.bind_some, hf.isOpaque]
    · have hline := hbase.isWord.not_mem (d := '\n') rfl
      simp [hline, hf.line]
  | staticField f =>
    have hf : f.WellFormed := h
    have hform : (staticField f).text = f.text := rfl
    rw [hform]
    refine ⟨f.isTight_text, ?_, hf.isOpaque _, hf.line⟩
    rw [FieldRef.text_eq]
    exact isNoCall_of_head (by decide)
  | call e => cases h
  | verbatim code => cases h

/-! ### Constants -/

namespace Constant

/-- A text without quotes that begins neither like a number nor is `null` is no constant. -/
theorem read?_eq_none {t : Text} (hquote : '"' ∉ t) (hnull : t ≠ "null".toList) {c : Char}
    {s : Text} (ht : t = c :: s) (hdigit : c.isDigit = false) (hminus : c ≠ '-') :
    read? t = none := by
  subst ht
  have hhead : ¬(c.isDigit = true ∨ c = '-') := by
    rintro (h | h)
    · rw [h] at hdigit
      cases hdigit
    · exact hminus h
  -- One form of constant after the other: each begins with a quote, a digit or a sign, or has a
  -- quote.
  have hstring : readString? (c :: s) = none := by
    unfold readString?
    split
    next h =>
      obtain ⟨rfl, rfl⟩ := List.cons.inj h
      exact absurd List.mem_cons_self hquote
    · rfl
  have hclass : readClassConstant? (c :: s) = none := by
    have hprefix : Text.stripPrefix? "class \"".toList (c :: s) = none :=
      Text.stripPrefix?_eq_none_of_not_mem (c := '"') (by decide) hquote
    rw [readClassConstant?, hprefix]
    rfl
  have hint : readIntConstant? (c :: s) = none :=
    readIntConstant?_eq_none List.mem_cons_self hdigit hminus
  have hlong : readLongConstant? (c :: s) = none := by
    rw [readLongConstant?]
    have hdigits : (longDigits? (c :: s)).bind readInt? = none := by
      rw [Option.bind_eq_none_iff]
      intro digits h
      have hs : c :: s = digits ++ "L".toList := Text.stripSuffix?_eq_some_iff.1 h
      cases digits with
      | nil => rfl
      | cons d digits =>
        obtain ⟨rfl, -⟩ := List.cons.inj hs
        exact readInt?_eq_none List.mem_cons_self hdigit hminus
    rw [hdigits]
  have hfloating : readFloating? (c :: s) = none := by
    have hfloat : isFloatText (c :: s) = false := by
      rw [Bool.eq_false_iff]
      intro h
      obtain ⟨d, a, hs, hd, -⟩ := isFloatText_chars h
      rw [List.cons_append] at hs
      exact hhead ((List.cons.inj hs).1 ▸ hd)
    have hdouble : isDoubleText (c :: s) = false := by
      rw [Bool.eq_false_iff]
      intro h
      obtain ⟨d, a, hs, hd, -, -⟩ := isDoubleText_chars h
      exact hhead ((List.cons.inj hs).1 ▸ hd)
    rw [readFloating?, hfloat, hdouble]
    rfl
  rw [read?, if_neg hnull, hstring, hclass, hint, hlong, hfloating]
  rfl

/-- **A literal is read** if nothing inside it closes it. -/
theorem read?_literal {s : Text}
    (h : ∀ next, Zone.walk (fun _ => false) (.quoted false) s next = some (.quoted false)) :
    read? ('"' :: s ++ ['"']) = some (.string (StringLiteral.unescape s)) := by
  have hinside : Text.hasOutside .outside ('"' :: s ++ ['"']) = false :=
    Text.hasOutside_eq_false (Zone.walk_literal h)
  have hstrip : Text.stripSuffix? "\"".toList (s ++ ['"']) = some s := Text.stripSuffix?_append _ _
  have hread : readString? ('"' :: (s ++ ['"'])) = some (.string (StringLiteral.unescape s)) := by
    rw [List.cons_append] at hinside
    rw [readString?, hstrip]
    simp only [hinside, Bool.false_eq_true, if_false]
  have hnull : '"' :: (s ++ ['"']) ≠ "null".toList := by
    intro h
    exact absurd (List.cons.inj h).1 (by decide)
  rw [List.cons_append, read?, if_neg hnull, hread, Option.some_or]

/-- **String literals are read back**, whatever they stand for. -/
theorem read?_string (v : Text) :
    read? ('"' :: StringLiteral.escape v ++ ['"']) = some (.string v) := by
  rw [read?_literal fun next => Zone.walk_escape v, StringLiteral.unescape_escape]

/-- **A class constant is read back.** -/
theorem read?_class (name : Text) :
    read? ("class \"".toList ++ (name ++ "\"".toList)) = some (.class_ name) := by
  have hnull : "class \"".toList ++ (name ++ "\"".toList) ≠ "null".toList := by
    intro h
    have hc : 'c' = 'n' := (List.cons.inj h).1
    cases hc
  have hstring : readString? ("class \"".toList ++ (name ++ "\"".toList)) = none := rfl
  have hread : readClassConstant? ("class \"".toList ++ (name ++ "\"".toList)) =
      some (.class_ name) := by
    rw [readClassConstant?, Text.stripPrefix?_append, Option.bind_some, Text.stripSuffix?_append,
      Option.map_some]
  rw [read?, if_neg hnull, hstring, hread, Option.none_or, Option.some_or]

/-- **Constants are read back.** -/
theorem WellFormed.read?_text {c : Constant} (h : c.WellFormed) : read? c.text = some c := by
  cases c with
  | int n => exact read?_int n
  | long n => exact read?_long n
  | float written => exact read?_float h
  | double written => exact read?_double h
  | string v => exact read?_string v
  | null => rfl
  | class_ name =>
    have hform : (class_ name).text = "class \"".toList ++ (name ++ "\"".toList) :=
      List.append_assoc _ _ _
    rw [hform, read?_class]

end Constant

/-! ### The other operands -/

/-- What begins with a local, has no quotes behind it and is not `null` is no constant. -/
theorem IsLocal.constant_read?_eq_none {name : Text} (h : IsLocal name) (rest : Text)
    (hquote : '"' ∉ rest) (hnull : name ++ rest ≠ "null".toList) :
    Constant.read? (name ++ rest) = none := by
  obtain ⟨-, c, tail, hname, hword, hdigit⟩ := isLocalName_spec h.form
  refine Constant.read?_eq_none ?_ hnull (by rw [hname, List.cons_append]) hdigit ?_
  · rw [List.mem_append, not_or]
    exact ⟨h.isWord.not_mem rfl, hquote⟩
  · rintro rfl
    cases hword

/-- A reference to a field has no quotation mark. -/
theorem FieldRef.WellFormed.not_mem_quote {f : FieldRef} (h : f.WellFormed) : '"' ∉ f.text := by
  have hinner := h.not_mem_inner (d := '"') rfl (by decide) (by decide)
  rw [FieldRef.text_eq]
  simp [hinner]

/-- The name of a local has no point. -/
theorem IsLocal.not_mem_point {name : Text} (h : IsLocal name) : '.' ∉ name := by
  intro hmem
  cases h.isWord.2 '.' hmem

/-- An allocation begins with a word of its own. -/
theorem readAlloc?_eq_none {word rest : Text} (hword : ' ' ∉ word) (hne : word ≠ "new".toList) :
    readAlloc? (word ++ ' ' :: rest) = none := by
  have hprefix : Text.stripPrefix? "new ".toList (word ++ ' ' :: rest) = none :=
    Text.stripPrefix?_eq_none_of_word "new".toList (by decide) hword hne rest
  rw [readAlloc?, hprefix]
  rfl

namespace Value

/-- **A constant is read back** as an operand. -/
theorem readSimple_const {c : Constant} (h : c.WellFormed) : readSimple c.text = .const c := by
  rw [readSimple, h.read?_text]
  rfl

/-- **A local is read back** as an operand. -/
theorem readSimple_var {name : Text} (h : IsLocal name) : readSimple name = .var name := by
  have hconst : Constant.read? name = none := by
    have := h.constant_read?_eq_none [] (by simp) (by simpa using h.notNull)
    rwa [List.append_nil] at this
  have halloc : readAlloc? name = none := by
    have hprefix : Text.stripPrefix? "new ".toList name = none :=
      Text.stripPrefix?_eq_none_of_not_mem (c := ' ') (by decide) (h.isWord.not_mem rfl)
    rw [readAlloc?, hprefix]
    rfl
  have hstatic : readStaticField? name = none := by
    obtain ⟨-, c, tail, rfl, hword, -⟩ := isLocalName_spec h.form
    unfold readStaticField?
    split
    next h =>
      obtain ⟨rfl, -⟩ := List.cons.inj h
      cases hword
    · rfl
  have hinstance : readInstanceField? name = none := by
    have hcut : Text.cutAt? ".<".toList name = none :=
      Text.cutAt?_eq_none (c := '.') (by decide) h.not_mem_point
    rw [readInstanceField?, hcut]
  rw [readSimple, hconst, halloc, hstatic, hinstance, if_pos h.form]
  rfl

/-- **An allocation is read back.** -/
theorem readSimple_alloc {cls : ClassName} (h : cls.WellFormed) :
    readSimple ("new ".toList ++ cls.chars) = .alloc cls := by
  have hconst : Constant.read? ("new ".toList ++ cls.chars) = none := by
    refine Constant.read?_eq_none ?_ ?_ rfl rfl (by decide)
    · rw [List.mem_append, not_or]
      exact ⟨by decide, h.not_mem rfl⟩
    · intro heq
      have he : 'e' = 'u' := (List.cons.inj (List.cons.inj heq).2).1
      cases he
  have halloc : readAlloc? ("new ".toList ++ cls.chars) = some (.alloc cls) := by
    have href : (Ty.ref cls).WellFormed := h
    have hread : Ty.read? cls.chars = some (.ref cls) := Ty.read?_text href
    rw [readAlloc?, Text.stripPrefix?_append, Option.bind_some, hread]
  rw [readSimple, hconst, halloc]
  rfl

/-- **A static field is read back.** -/
theorem readSimple_staticField {f : FieldRef} (h : f.WellFormed) :
    readSimple f.text = .staticField f := by
  have hform : f.text = '<' :: (f.inner ++ ['>']) := f.text_eq
  have hconst : Constant.read? f.text = none := by
    refine Constant.read?_eq_none h.not_mem_quote ?_ hform rfl (by decide)
    rw [hform]
    intro heq
    exact absurd (List.cons.inj heq).1 (by decide)
  have halloc : readAlloc? f.text = none := by
    have hprefix : Text.stripPrefix? "new ".toList f.text = none := by
      rw [hform]
      exact Text.stripPrefix?_eq_none_of_head (by decide)
    rw [readAlloc?, hprefix]
    rfl
  have hstatic : readStaticField? f.text = some (.staticField f) := by
    have hclosed := h.readClosedField?_text
    rw [hform] at hclosed ⊢
    rw [readStaticField?, hclosed, Option.map_some]
  rw [readSimple, hconst, halloc, hstatic]
  rfl

/-- **A field of an object is read back.** -/
theorem readSimple_instanceField {base : Text} (hbase : IsLocal base) {f : FieldRef}
    (h : f.WellFormed) : readSimple (base ++ '.' :: f.text) = .instanceField base f := by
  have hform : f.text = '<' :: (f.inner ++ ['>']) := f.text_eq
  -- The point in front of the bracket keeps the earlier forms away.
  have hconst : Constant.read? (base ++ '.' :: f.text) = none := by
    refine hbase.constant_read?_eq_none _ ?_ fun heq => ?_
    · rw [List.mem_cons, not_or]
      exact ⟨by decide, h.not_mem_quote⟩
    · have hmem : '.' ∈ base ++ '.' :: f.text := by simp
      rw [heq] at hmem
      exact absurd hmem (by decide)
  have halloc : readAlloc? (base ++ '.' :: f.text) = none := by
    have hwords : base ++ '.' :: f.text = (base ++ '.' :: '<' :: f.cls.chars ++ [':']) ++
        ' ' :: (f.ty.text ++ ' ' :: f.name ++ ['>']) := by
      simp [FieldRef.text]
    rw [hwords]
    refine readAlloc?_eq_none ?_ fun heq => ?_
    · have hspace := hbase.isWord.not_mem (d := ' ') rfl
      have hspace' := h.cls.not_mem (d := ' ') rfl
      simp [hspace, hspace']
    · have hmem : '.' ∈ base ++ '.' :: '<' :: f.cls.chars ++ [':'] := by simp
      rw [heq] at hmem
      exact absurd hmem (by decide)
  have hstatic : readStaticField? (base ++ '.' :: f.text) = none := by
    obtain ⟨-, c, tail, rfl, hword, -⟩ := isLocalName_spec hbase.form
    unfold readStaticField?
    split
    next heq =>
      obtain ⟨rfl, -⟩ := List.cons.inj heq
      cases hword
    · rfl
  have hinstance : readInstanceField? (base ++ '.' :: f.text) = some (.instanceField base f) := by
    have hcut : Text.cutAt? ".<".toList (base ++ '.' :: f.text) =
        some (base, f.inner ++ ['>']) := by
      have := Text.cutAt?_append (p := ['<']) hbase.not_mem_point (f.inner ++ ['>'])
      rw [hform]
      simpa using this
    have hclosed := h.readClosedField?_text
    rw [hform] at hclosed
    rw [readInstanceField?, hcut]
    simp only [hbase.form, if_true, hclosed, Option.map_some]
  rw [readSimple, hconst, halloc, hstatic, hinstance]
  rfl

/-- **Each form is read as itself.** -/
theorem IsOperand.readSimple_text {v : Value} (h : v.IsOperand) : readSimple v.text = v := by
  cases v with
  | var name => exact readSimple_var h
  | const c => exact readSimple_const h
  | alloc cls => exact readSimple_alloc h
  | instanceField base f => exact readSimple_instanceField h.1 h.2
  | staticField f => exact readSimple_staticField h
  | call e => cases h
  | verbatim code => cases h

end Value

/-! ### Verbatim values -/

/-- What is read as an allocation is not kept verbatim. -/
theorem readAlloc?_ne_verbatim {s : Text} {v : Value} (h : readAlloc? s = some v) :
    v ≠ .verbatim s := by
  unfold readAlloc? at h
  split at h
  · obtain rfl := Option.some.inj h
    simp
  · cases h

/-- What is read as a static field is not kept verbatim. -/
theorem readStaticField?_ne_verbatim {s : Text} {v : Value} (h : readStaticField? s = some v) :
    v ≠ .verbatim s := by
  unfold readStaticField? at h
  split at h
  · obtain ⟨f, -, rfl⟩ := Option.map_eq_some_iff.1 h
    simp
  · cases h

/-- What is read as a field of an object is not kept verbatim. -/
theorem readInstanceField?_ne_verbatim {s : Text} {v : Value} (h : readInstanceField? s = some v) :
    v ≠ .verbatim s := by
  unfold readInstanceField? at h
  split at h
  · split at h
    · obtain ⟨f, -, rfl⟩ := Option.map_eq_some_iff.1 h
      simp
    · cases h
  · cases h

/-- What fits no other form. -/
theorem Value.readSimple_eq_verbatim_iff {s : Text} :
    Value.readSimple s = .verbatim s ↔ Constant.read? s = none ∧ readAlloc? s = none ∧
      readStaticField? s = none ∧ readInstanceField? s = none ∧ isLocalName s = false := by
  unfold Value.readSimple
  cases Constant.read? s with
  | some c => simp
  | none =>
    cases halloc : readAlloc? s with
    | some v => simpa using readAlloc?_ne_verbatim halloc
    | none =>
      cases hstatic : readStaticField? s with
      | some v => simpa using readStaticField?_ne_verbatim hstatic
      | none =>
        cases hinstance : readInstanceField? s with
        | some v => simpa using readInstanceField?_ne_verbatim hinstance
        | none => cases isLocalName s <;> simp

end Weaver
