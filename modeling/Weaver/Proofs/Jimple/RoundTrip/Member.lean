import Mathlib.Data.List.Basic
import Weaver.Jimple.Printer
import Weaver.Jimple.Reader.Member
import Weaver.Proofs.Jimple.RoundTrip.Declaration

/-!
# Reading Back Headers and Fields

The lines that introduce a class, a field or a method are read word by word. The words that
a modifier, a header or a statement may begin with are reserved, so that the first word
which is none of the modifiers is where the printer put it.

## Main results

* `readClassList_classList`: lists of classes are read back.
* `Class.readHeader_headerLine`, `Field.read_declaration`, `Method.readHeader_headerLine`:
  **headers and fields are read back**.
-/

namespace Weaver

/-! ### Words -/

namespace Text

/-- Words that were joined with blanks are found again. -/
theorem words_join {ws : List Text} (h : ∀ w ∈ ws, w ≠ [] ∧ ∀ c ∈ w, isBlank c = false) :
    words (join " ".toList ws) = ws := by
  induction ws with
  | nil => rfl
  | cons w ws ih =>
    rw [List.forall_mem_cons] at h
    obtain ⟨⟨hne, hblank⟩, hrest⟩ := h
    cases ws with
    | nil => exact words_of_forall hne hblank
    | cons w' ws =>
      have hform : join " ".toList (w :: w' :: ws) = w ++ ' ' :: join " ".toList (w' :: ws) := by
        rw [join_cons_cons, List.append_assoc]
        rfl
      rw [hform, words_append hne hblank rfl, ih hrest]

/-- What has no slash is no comment. -/
theorem startsWith_comment_of_not_mem {s : Text} (h : '/' ∉ s) :
    startsWith s "//".toList = false := by
  rw [startsWith, stripPrefix?_eq_none_of_not_mem (c := '/') (by decide) h]
  rfl

end Text

/-! ### Modifiers -/

/-- A word that is no modifier's keyword is read as none. -/
theorem Modifier.ofKeyword?_eq_none {w : Text} (h : ∀ m : Modifier, w ≠ m.keyword) :
    ofKeyword? w = none := by
  rw [ofKeyword?, List.find?_eq_none]
  intro m _ heq
  exact h m (eq_of_beq heq).symm

/-- The keywords of modifiers are reserved. -/
theorem Modifier.keyword_mem_reservedWords (m : Modifier) : m.keyword ∈ reservedWords := by
  cases m <;> decide

/-- A modifier is written in letters, and not as a type is. -/
theorem Modifier.keyword_spec (m : Modifier) :
    m.keyword ∉ Ty.named.map Ty.text ∧ m.keyword ≠ [] ∧ ∀ c ∈ m.keyword, c.isAlpha = true := by
  cases m <;> decide

/-- No type is read as a modifier. -/
theorem Ty.WellFormed.not_modifier {ty : Ty} (h : ty.WellFormed) :
    Modifier.ofKeyword? ty.text = none := by
  refine Modifier.ofKeyword?_eq_none fun m => ?_
  obtain ⟨hfree, -, halpha⟩ := m.keyword_spec
  exact h.text_ne m.keyword_mem_reservedWords hfree fun hmem => by cases halpha _ hmem

/-- The first modifier stands in front, with a space behind it. -/
theorem modifiersPrefix_cons (m : Modifier) (ms : List Modifier) (t : Text) :
    modifiersPrefix (m :: ms) ++ t = m.keyword ++ ' ' :: (modifiersPrefix ms ++ t) := by
  simp [modifiersPrefix]

/-- The words of the modifiers are their keywords. -/
theorem words_modifiersPrefix (ms : List Modifier) (t : Text) :
    Text.words (modifiersPrefix ms ++ t) = ms.map Modifier.keyword ++ Text.words t := by
  induction ms with
  | nil => rfl
  | cons m ms ih =>
    obtain ⟨-, hne, halpha⟩ := m.keyword_spec
    rw [modifiersPrefix_cons, Text.words_append hne
      (fun c hc => isBlank_eq_false_of_isAlpha (halpha c hc)) rfl, ih]
    rfl

/-- **The modifiers are taken off** in front of a word that is none. -/
theorem takeModifiers_append (ms : List Modifier) {w : Text}
    (h : Modifier.ofKeyword? w = none) (ws : List Text) :
    takeModifiers (ms.map Modifier.keyword ++ w :: ws) = (ms, w :: ws) := by
  induction ms with
  | nil =>
    rw [List.map_nil, List.nil_append, takeModifiers, h]
  | cons m ms ih =>
    rw [List.map_cons, List.cons_append, takeModifiers, Modifier.ofKeyword?_keyword]
    simp only [ih]

/-- Modifiers in front put no blanks at the ends. -/
theorem isTight_modifiersPrefix (ms : List Modifier) {t : Text} (h : Text.IsTight t) :
    Text.IsTight (modifiersPrefix ms ++ t) := by
  cases ms with
  | nil => exact h
  | cons m ms =>
    obtain ⟨-, hne, halpha⟩ := m.keyword_spec
    have hkeyword : Text.IsTight m.keyword :=
      Text.isTight_of_forall hne fun c hc => isBlank_eq_false_of_isAlpha (halpha c hc)
    have hform : modifiersPrefix (m :: ms) ++ t =
        m.keyword ++ (' ' :: modifiersPrefix ms) ++ t := by
      rw [modifiersPrefix_cons]
      simp
    rw [hform]
    exact hkeyword.append _ h

/-- Modifiers are written in letters and spaces. -/
theorem modifiersPrefix_chars {ms : List Modifier} {c : Char} (h : c ∈ modifiersPrefix ms) :
    Ty.isTypeChar c = true ∨ c = ' ' := by
  obtain ⟨m, -, hc⟩ := List.mem_flatMap.1 h
  obtain ⟨-, -, halpha⟩ := m.keyword_spec
  obtain hc | hc := List.mem_append.1 hc
  · refine .inl (Ty.isTypeChar_of_isNameChar (isNameChar_of_isWordChar
      (isWordChar_of_isAlphanum ?_)))
    exact isAlphanum_iff.2 (.inl (halpha c hc))
  · exact .inr (List.mem_singleton.1 hc)

/-- Other characters do not occur among the modifiers. -/
theorem not_mem_modifiersPrefix {d : Char} (htype : Ty.isTypeChar d = false) (hspace : d ≠ ' ')
    (ms : List Modifier) : d ∉ modifiersPrefix ms := by
  intro hmem
  obtain hc | hc := modifiersPrefix_chars hmem
  · rw [htype] at hc
    cases hc
  · exact hspace hc

/-! ### Lists of classes -/

/-- The words of a list of classes: each name but the last has its comma. -/
def listWords : List ClassName → List Text
  | [] => []
  | [c] => [c.chars]
  | c :: cs => (c.chars ++ ",".toList) :: listWords cs

/-- A list of classes is its words with spaces between them. -/
theorem classList_eq_join (cs : List ClassName) :
    classList cs = Text.join " ".toList (listWords cs) := by
  induction cs with
  | nil => rfl
  | cons c cs ih =>
    cases cs with
    | nil => rfl
    | cons c' cs =>
      have hwords : ∃ w ws, listWords (c' :: cs) = w :: ws := by
        cases cs with
        | nil => exact ⟨_, _, rfl⟩
        | cons c'' cs => exact ⟨_, _, rfl⟩
      obtain ⟨w, ws, hw⟩ := hwords
      have hform : classList (c :: c' :: cs) = c.chars ++ ", ".toList ++ classList (c' :: cs) := rfl
      have hlist : listWords (c :: c' :: cs) =
        (c.chars ++ ",".toList) :: listWords (c' :: cs) := rfl
      rw [hform, ih, hlist, hw, Text.join_cons_cons]
      simp

/-- The words of a list of classes are not empty and have no blanks. -/
theorem listWords_spec {cs : List ClassName} (h : ∀ c ∈ cs, c.WellFormed) :
    ∀ w ∈ listWords cs, w ≠ [] ∧ ∀ c ∈ w, isBlank c = false := by
  induction cs with
  | nil => simp [listWords]
  | cons c cs ih =>
    rw [List.forall_mem_cons] at h
    have hne := h.1.ne_nil
    have hblank := h.1.not_blank
    cases cs with
    | nil =>
      intro w hw
      rw [List.mem_singleton.1 hw]
      exact ⟨hne, hblank⟩
    | cons c' cs =>
      have hlist : listWords (c :: c' :: cs) =
        (c.chars ++ ",".toList) :: listWords (c' :: cs) := rfl
      rw [hlist, List.forall_mem_cons]
      refine ⟨⟨List.append_ne_nil_of_left_ne_nil hne _, fun d hd => ?_⟩, ih h.2⟩
      obtain hd | hd := List.mem_append.1 hd
      · exact hblank d hd
      · obtain rfl : d = ',' := by simpa using hd
        rfl

/-- A list of classes has no blanks at its ends. -/
theorem isTight_classList {cs : List ClassName} (h : ∀ c ∈ cs, c.WellFormed) (hne : cs ≠ []) :
    Text.IsTight (classList cs) := by
  induction cs with
  | nil => exact absurd rfl hne
  | cons c cs ih =>
    rw [List.forall_mem_cons] at h
    cases cs with
    | nil => exact h.1.isTight
    | cons c' cs => exact h.1.isTight.append ", ".toList (ih h.2 (List.cons_ne_nil _ _))

/-- A list of classes is split into its words. -/
theorem words_classList {cs : List ClassName} (h : ∀ c ∈ cs, c.WellFormed) :
    Text.words (classList cs) = listWords cs := by
  rw [classList_eq_join, Text.words_join (listWords_spec h)]

/-- **Lists of classes are read back**, also behind white space. -/
theorem readClassList_classList {cs : List ClassName} (h : ∀ c ∈ cs, c.WellFormed) (pad : Text)
    (hpad : ∀ c ∈ pad, isBlank c = true) : readClassList (pad ++ classList cs) = cs := by
  cases cs with
  | nil =>
    have hcomma : ',' ∉ pad := fun hmem => by cases hpad _ hmem
    have htrim : Text.trim pad = [] := by
      have := Text.trim_append (s := []) hpad
      rwa [List.append_nil] at this
    rw [classList, List.map_nil, Text.join, List.append_nil, readClassList,
      Text.splitOn_of_not_mem hcomma, List.map_singleton, htrim]
    rfl
  | cons c cs =>
    have hcomma : ∀ t ∈ (pad ++ c.chars) :: cs.map ClassName.chars, ',' ∉ t := by
      rw [List.forall_mem_cons] at h ⊢
      constructor
      · intro hmem
        obtain hmem | hmem := List.mem_append.1 hmem
        · cases hpad _ hmem
        · exact h.1.not_mem rfl hmem
      · intro t ht
        obtain ⟨c', hc', rfl⟩ := List.mem_map.1 ht
        exact (h.2 c' hc').not_mem rfl
    have hform : pad ++ classList (c :: cs) =
        Text.join ", ".toList ((pad ++ c.chars) :: cs.map ClassName.chars) := by
      rw [classList, List.map_cons]
      cases cs <;> simp [Text.join]
    -- All pieces but the first have the space of the separator in front.
    have hsplit : Text.splitOn ',' (pad ++ classList (c :: cs)) =
        (pad ++ c.chars) :: (cs.map ClassName.chars).map (" ".toList ++ ·) := by
      rw [hform]
      exact Text.splitOn_join (by decide) hcomma
    have hread : ∀ {pad : Text}, (∀ d ∈ pad, isBlank d = true) → ∀ c' ∈ c :: cs,
        Text.trim (pad ++ c'.chars) = c'.chars := by
      intro pad hpad c' hc'
      rw [Text.trim_append hpad, (h c' hc').isTight.trim_eq]
    have hblank : ∀ d ∈ " ".toList, isBlank d = true := by decide
    have htrims : ((cs.map ClassName.chars).map (" ".toList ++ ·)).map Text.trim =
        cs.map ClassName.chars := by
      rw [List.map_map, List.map_map]
      exact List.map_congr_left fun c' hc' => hread hblank c' (List.mem_cons_of_mem _ hc')
    have hnames : ∀ t ∈ (c :: cs).map ClassName.chars, (!t.isEmpty) = true := by
      intro t ht
      obtain ⟨c', hc', rfl⟩ := List.mem_map.1 ht
      rw [Bool.not_eq_true', List.isEmpty_eq_false_iff]
      exact (h c' hc').ne_nil
    rw [readClassList, hsplit, List.map_cons, hread hpad c List.mem_cons_self, htrims,
      ← List.map_cons, List.filter_eq_self.2 hnames, List.map_map]
    exact List.map_id _

/-! ### Fields -/

namespace Field

/-- The declaration of a field without the white space around it. -/
def declaration (f : Field) : Text :=
  modifiersPrefix f.modifiers ++ f.ty.text ++ ' ' :: f.name ++ ";".toList

/-- The line of a field is its declaration, indented. -/
theorem line_eq (f : Field) : f.line = memberIndent ++ f.declaration ++ ['\n'] := by
  simp [line, declaration]

/-- **Fields are read back.** -/
theorem read_declaration {f : Field} (hname : IsWord f.name) (hty : f.ty.WellFormed) :
    Field.read f.declaration = .ok f := by
  have hwords : Text.words (modifiersPrefix f.modifiers ++ f.ty.text ++ ' ' :: f.name) =
      f.modifiers.map Modifier.keyword ++ [f.ty.text, f.name] := by
    rw [List.append_assoc, words_modifiersPrefix,
      Text.words_append hty.text_ne_nil hty.not_blank rfl,
      Text.words_of_forall hname.1 hname.not_blank]
  rw [Field.read, declaration, Text.stripSuffix?_append]
  simp only [hwords, takeModifiers_append f.modifiers hty.not_modifier, Ty.read?_text hty]

/-- A declaration has no characters but those of types, spaces and the semicolon. -/
theorem not_mem_declaration {f : Field} (hname : IsWord f.name) (hty : f.ty.WellFormed) {d : Char}
    (htype : Ty.isTypeChar d = false) (hspace : d ≠ ' ') (hend : d ≠ ';') : d ∉ f.declaration := by
  have hd : Ty.isNameChar d = false := Ty.isNameChar_eq_false_of_isTypeChar htype
  rw [declaration]
  simp only [List.mem_append, List.mem_cons, not_or]
  refine ⟨⟨⟨not_mem_modifiersPrefix htype hspace _, hty.not_mem htype⟩, hspace,
    hname.not_mem hd⟩, ?_⟩
  simpa using hend

/-- The declaration of a field has no blanks at its ends. -/
theorem isTight_declaration {f : Field} (hty : f.ty.WellFormed) : Text.IsTight f.declaration := by
  have hend : Text.IsTight [';'] := Text.isTight_of_forall (by decide) (by decide)
  have htail := isTight_modifiersPrefix f.modifiers (hty.isTight.append (' ' :: f.name) hend)
  have hform : f.declaration =
      modifiersPrefix f.modifiers ++ (f.ty.text ++ (' ' :: f.name) ++ [';']) := by
    simp [declaration]
  rw [hform]
  exact htail

end Field

/-! ### Methods -/

namespace Method

/-- The exceptions behind the parameters of a method. -/
def throwsText (m : Method) : Text :=
  if m.throws.isEmpty then [] else " throws ".toList ++ classList m.throws

/-- The first line of a method without the white space around it. -/
def headerLine (m : Method) : Text :=
  modifiersPrefix m.modifiers ++ m.sig.ret.text ++ ' ' :: m.sig.name ++
    '(' :: Text.join ", ".toList (m.sig.params.map Ty.text) ++ ")".toList ++ m.throwsText

/-- The header of a method is indented as members are. -/
theorem header_eq (m : Method) : m.header = memberIndent ++ m.headerLine := by
  rw [header, headerLine, throwsText]
  simp only [List.append_assoc, List.cons_append]

variable {m : Method}

/-- The exceptions are written in the characters of names, spaces and commas. -/
theorem throwsText_chars (h : ∀ name ∈ m.throws, name.WellFormed) {c : Char}
    (hc : c ∈ m.throwsText) : Ty.isNameChar c = true ∨ c = ' ' ∨ c = ',' := by
  have hword : ∀ c ∈ " throws ".toList, Ty.isNameChar c = true ∨ c = ' ' ∨ c = ',' := by decide
  have hcomma : ∀ c ∈ ", ".toList, Ty.isNameChar c = true ∨ c = ' ' ∨ c = ',' := by decide
  rw [throwsText] at hc
  split at hc
  · cases hc
  · obtain hc | hc := List.mem_append.1 hc
    · exact hword c hc
    · obtain hc | ⟨t, ht, hc⟩ := Text.mem_join hc
      · exact hcomma c hc
      · obtain ⟨name, hname, rfl⟩ := List.mem_map.1 ht
        exact .inl ((h name hname).chars c hc)

/-- The characters that separate the parts of the first line of a method. -/
def separators : Text :=
  " ,()<>".toList

/-- The header of a method has no characters but those of types and separators. -/
theorem not_mem_headerLine (hsig : m.sig.WellFormed) (hthrows : ∀ name ∈ m.throws, name.WellFormed)
    {d : Char} (htype : Ty.isTypeChar d = false) (hsep : d ∉ separators) : d ∉ m.headerLine := by
  have hd : Ty.isNameChar d = false := Ty.isNameChar_eq_false_of_isTypeChar htype
  have hne : ∀ c ∈ separators, d ≠ c := fun c hc h => hsep (h ▸ hc)
  have hparams : d ∉ Text.join ", ".toList (m.sig.params.map Ty.text) := by
    have hcomma : ∀ c ∈ ", ".toList, c ∈ separators := by decide
    exact Ty.not_mem_join hsig.isReadable.params htype fun hmem => hsep (hcomma d hmem)
  have hexceptions : d ∉ m.throwsText := by
    intro hmem
    obtain hc | rfl | rfl := throwsText_chars hthrows hmem
    · rw [hd] at hc
      cases hc
    · exact hsep (by decide)
    · exact hsep (by decide)
  have hclose : d ∉ ")".toList := by simpa using hne ')' (by decide)
  rw [headerLine]
  simp only [List.mem_append, List.mem_cons, not_or]
  exact ⟨⟨⟨⟨⟨not_mem_modifiersPrefix htype (hne ' ' (by decide)) _, hsig.ret.not_mem htype⟩,
    hne ' ' (by decide), hsig.name.not_mem hd (hne '<' (by decide)) (hne '>' (by decide))⟩,
    hne '(' (by decide), hparams⟩, hclose⟩, hexceptions⟩

/-- **Methods are read back** up to their bodies. -/
theorem readParts_headerLine (hsig : m.sig.WellFormed)
    (hthrows : ∀ name ∈ m.throws, name.WellFormed) (line : Text) :
    readParts line m.headerLine = .ok { m with body := none } := by
  have hform : m.headerLine =
      (modifiersPrefix m.modifiers ++ m.sig.ret.text ++ ' ' :: m.sig.name) ++
      '(' :: (Text.join ", ".toList (m.sig.params.map Ty.text) ++ ')' :: m.throwsText) := by
    simp [headerLine]
  have hbefore : '(' ∉ modifiersPrefix m.modifiers ++ m.sig.ret.text ++ ' ' :: m.sig.name := by
    have hname := hsig.name.not_mem (d := '(') rfl (by decide) (by decide)
    simp only [List.mem_append, List.mem_cons, not_or]
    exact ⟨⟨not_mem_modifiersPrefix rfl (by decide) _, hsig.ret.not_mem rfl⟩, by decide, hname⟩
  have htail : ')' ∉ m.throwsText := by
    intro hmem
    obtain hc | hc | hc := throwsText_chars hthrows hmem
    · cases hc
    · cases hc
    · cases hc
  have hcut : cutParens? m.headerLine =
      some (modifiersPrefix m.modifiers ++ m.sig.ret.text ++ ' ' :: m.sig.name,
        Text.join ", ".toList (m.sig.params.map Ty.text), m.throwsText) := by
    rw [hform, cutParens?, Text.cutAtChar?_append hbefore]
    simp only [Option.bind_eq_bind, Option.bind_some]
    rw [Text.cutAtLast?_append _ htail]
    rfl
  have hwords : Text.words (modifiersPrefix m.modifiers ++ m.sig.ret.text ++ ' ' :: m.sig.name) =
      m.modifiers.map Modifier.keyword ++ [m.sig.ret.text, m.sig.name] := by
    rw [List.append_assoc, words_modifiersPrefix,
      Text.words_append hsig.ret.text_ne_nil hsig.ret.not_blank rfl,
      Text.words_of_forall hsig.name.ne_nil hsig.name.not_blank]
  have hopen : '(' ∉ Text.join ", ".toList (m.sig.params.map Ty.text) :=
    Ty.not_mem_join hsig.isReadable.params rfl (by decide)
  have hparams : Signature.readParams? (Text.join ", ".toList (m.sig.params.map Ty.text)) =
      some m.sig.params := Signature.readParams?_join [' '] (by decide) hsig.isReadable.params
  have hread : Signature.read (m.sig.ret.text ++ ' ' :: m.sig.name ++
      '(' :: Text.join ", ".toList (m.sig.params.map Ty.text) ++ ")".toList) = .ok m.sig := by
    rw [Signature.read, Signature.read?_parts hsig.isReadable.ret hsig.isReadable.name
      hparams hopen]
  have hexceptions : readThrows? m.throwsText = some m.throws := by
    rw [throwsText]
    cases hnames : m.throws with
    | nil => rfl
    | cons name names =>
      rw [hnames] at hthrows
      have htrim : Text.trim (" throws ".toList ++ classList (name :: names)) =
          "throws".toList ++ (" ".toList ++ classList (name :: names)) := by
        have hword : Text.IsTight "throws".toList := Text.isTight_of_forall (by decide) (by decide)
        have htight := hword.append " ".toList (isTight_classList hthrows (List.cons_ne_nil _ _))
        have hblank : ∀ c ∈ " ".toList, isBlank c = true := by decide
        rw [← List.append_assoc, ← htight.trim_eq, ← Text.trim_append hblank, List.append_assoc]
        rfl
      have hne : "throws".toList ++ (" ".toList ++ classList (name :: names)) ≠ [] :=
        List.cons_ne_nil _ _
      rw [if_neg (by simp), readThrows?, htrim, if_neg hne, Text.stripPrefix?_append,
        Option.map_some, readClassList_classList hthrows " ".toList (by decide)]
  rw [readParts, hcut]
  simp only [hwords, takeModifiers_append m.modifiers hsig.ret.not_modifier, hread, hexceptions]

/-- **The first lines of methods are read back**, those of methods without a body with the
semicolon behind them. -/
theorem readHeader_headerLine (hsig : m.sig.WellFormed)
    (hthrows : ∀ name ∈ m.throws, name.WellFormed) :
    readHeader m.headerLine = .ok ({ m with body := none }, true) ∧
      readHeader (m.headerLine ++ ";".toList) = .ok ({ m with body := none }, false) := by
  constructor
  · have hstrip : Text.stripSuffix? ";".toList m.headerLine = none := by
      refine Text.stripSuffix?_eq_none_of_not_mem (c := ';') (by decide) ?_
      exact not_mem_headerLine hsig hthrows rfl (by decide)
    rw [readHeader, hstrip]
    simp only [readParts_headerLine hsig hthrows]
    rfl
  · rw [readHeader, Text.stripSuffix?_append]
    simp only [readParts_headerLine hsig hthrows]
    rfl

/-- The header of a method has no blanks at its ends. -/
theorem isTight_headerLine (hsig : m.sig.WellFormed)
    (hthrows : ∀ name ∈ m.throws, name.WellFormed) : Text.IsTight m.headerLine := by
  have hclose : Text.IsTight [')'] := Text.isTight_of_forall (by decide) (by decide)
  have hmiddle := hsig.ret.isTight.append (' ' :: m.sig.name ++
    '(' :: Text.join ", ".toList (m.sig.params.map Ty.text)) hclose
  have hform : m.headerLine = modifiersPrefix m.modifiers ++
      (m.sig.ret.text ++ (' ' :: m.sig.name ++
        '(' :: Text.join ", ".toList (m.sig.params.map Ty.text)) ++ [')'] ++ m.throwsText) := by
    rw [headerLine]
    simp only [List.append_assoc, List.cons_append]
    rfl
  rw [hform]
  refine isTight_modifiersPrefix _ ?_
  rw [throwsText]
  split
  · rw [List.append_nil]
    exact hmiddle
  next hne =>
    have hnames : m.throws ≠ [] := fun h => hne (List.isEmpty_iff.2 h)
    have hlast := hmiddle.append " throws ".toList (isTight_classList hthrows hnames)
    rwa [List.append_assoc _ " throws ".toList] at hlast

end Method

/-! ### Classes -/

namespace Class

/-- The word that introduces a class. -/
def keyword (c : Class) : Text :=
  if c.isInterface then "interface".toList else "class".toList

/-- The superclass behind the name of a class. -/
def superclassText (c : Class) : Text :=
  match c.superclass with
  | some s => " extends ".toList ++ s.chars
  | none => []

/-- The interfaces behind the superclass. -/
def interfacesText (c : Class) : Text :=
  if c.interfaces.isEmpty then [] else " implements ".toList ++ classList c.interfaces

/-- The first line of a class without its end. -/
def headerLine (c : Class) : Text :=
  modifiersPrefix c.modifiers ++
    (c.keyword ++ ' ' :: (c.name.chars ++ (c.superclassText ++ c.interfacesText)))

/-- The words of the superclass. -/
def superclassWords (c : Class) : List Text :=
  match c.superclass with
  | some s => ["extends".toList, s.chars]
  | none => []

/-- The words of the interfaces. -/
def interfacesWords (c : Class) : List Text :=
  if c.interfaces.isEmpty then [] else "implements".toList :: listWords c.interfaces

/-- The header of a class is one line. -/
theorem header_eq (c : Class) : c.header = c.headerLine ++ ['\n'] := by
  have hkeyword : (if c.isInterface then "interface ".toList else "class ".toList) =
      c.keyword ++ [' '] := by
    rw [keyword]
    split <;> rfl
  rw [header, hkeyword, headerLine, superclassText, interfacesText]
  simp only [List.append_assoc, List.cons_append, List.nil_append]
  rfl

variable {c : Class}

/-- The words behind a name are those of the interfaces. -/
theorem words_interfacesText (h : c.WellFormed) {d : ClassName} (hd : d.WellFormed) :
    Text.words (d.chars ++ c.interfacesText) = d.chars :: c.interfacesWords := by
  rw [interfacesText, interfacesWords]
  split
  · rw [List.append_nil, Text.words_of_forall hd.ne_nil hd.not_blank]
  · have hform : " implements ".toList ++ classList c.interfaces =
        ' ' :: ("implements".toList ++ ' ' :: classList c.interfaces) := rfl
    rw [hform, Text.words_append hd.ne_nil hd.not_blank rfl,
      Text.words_append (by decide) (by decide) rfl, words_classList h.interfaces]

/-- The words behind the keyword name the class and its ancestors. -/
theorem words_ancestors (h : c.WellFormed) :
    Text.words (c.name.chars ++ (c.superclassText ++ c.interfacesText)) =
      c.name.chars :: (c.superclassWords ++ c.interfacesWords) := by
  have hsuper := h.superclass
  rw [superclassText, superclassWords]
  cases hs : c.superclass with
  | none => exact words_interfacesText h h.name
  | some s =>
    have hsup : s.WellFormed := hsuper s (by rw [hs]; rfl)
    have hform : " extends ".toList ++ s.chars ++ c.interfacesText =
        ' ' :: ("extends".toList ++ ' ' :: (s.chars ++ c.interfacesText)) := by
      rw [List.append_assoc]
      rfl
    simp only [hform]
    rw [Text.words_append h.name.ne_nil h.name.not_blank rfl,
      Text.words_append (by decide) (by decide) rfl, words_interfacesText h hsup]
    rfl

/-- The word in front of the interfaces separates them from the superclass. -/
theorem readAncestors_append (h : c.WellFormed) {ws : List Text}
    (hws : ∀ w ∈ ws, w ≠ "implements".toList) {superclass : Option ClassName}
    (hread : readExtends ws = .ok superclass) :
    readAncestors (ws ++ c.interfacesWords) = .ok (superclass, c.interfaces) := by
  have hno : ∀ w ∈ ws, (!(w == "implements".toList)) = true := fun w hw => by simpa using hws w hw
  have htake : (ws ++ c.interfacesWords).takeWhile (fun w => !(w == "implements".toList)) = ws := by
    rw [List.takeWhile_append_of_pos hno, interfacesWords]
    split
    · exact List.append_nil ws
    · rw [List.takeWhile_cons_of_neg (by simp), List.append_nil]
  have hlist : readClassList (Text.join " ".toList (((ws ++ c.interfacesWords).dropWhile
      fun w => !(w == "implements".toList)).drop 1)) = c.interfaces := by
    rw [List.dropWhile_append_of_pos hno, interfacesWords]
    split
    next hempty =>
      rw [List.isEmpty_iff.1 hempty]
      rfl
    · rw [List.dropWhile_cons_of_neg (by simp), List.drop_succ_cons, List.drop_zero,
        ← classList_eq_join]
      exact readClassList_classList h.interfaces [] (by simp)
  rw [readAncestors]
  simp only [htake, hread, hlist]

/-- **The ancestors are read back** from their words. -/
theorem readAncestors_words (h : c.WellFormed) :
    readAncestors (c.superclassWords ++ c.interfacesWords) = .ok (c.superclass, c.interfaces) := by
  have hsuper := h.superclass
  rw [superclassWords]
  cases hs : c.superclass with
  | none => exact readAncestors_append h (by simp) rfl
  | some s =>
    have hsup : s.WellFormed := hsuper s (by rw [hs]; rfl)
    have hname : s.chars ≠ "implements".toList := by
      intro heq
      exact hsup.free (heq ▸ by decide)
    exact readAncestors_append h (by simpa using hname) rfl

/-- **The first lines of classes are read back.** -/
theorem readHeader_headerLine (h : c.WellFormed) :
    readHeader c.headerLine = .ok { c with fields := [], methods := [] } := by
  have hkeyword : c.keyword ≠ [] ∧ (∀ d ∈ c.keyword, isBlank d = false) ∧
      Modifier.ofKeyword? c.keyword = none := by
    rw [keyword]
    split <;> decide
  have hread : ∀ ws, readClassKeyword (c.keyword :: ws) = .ok (c.isInterface, ws) := by
    intro ws
    rw [keyword]
    cases c.isInterface <;> rfl
  obtain ⟨hne, hblank, hmodifier⟩ := hkeyword
  have hwords : Text.words c.headerLine = c.modifiers.map Modifier.keyword ++
      c.keyword :: c.name.chars :: (c.superclassWords ++ c.interfacesWords) := by
    rw [headerLine, words_modifiersPrefix, Text.words_append hne hblank rfl, words_ancestors h]
  rw [readHeader, hwords, takeModifiers_append c.modifiers hmodifier]
  simp only [hread, readAncestors_words h]
  rfl

/-- The header of a class has no characters but those of types, spaces and commas. -/
theorem not_mem_headerLine (h : c.WellFormed) {d : Char} (htype : Ty.isTypeChar d = false)
    (hspace : d ≠ ' ') (hcomma : d ≠ ',') : d ∉ c.headerLine := by
  have hd : Ty.isNameChar d = false := Ty.isNameChar_eq_false_of_isTypeChar htype
  have hword : ∀ w : Text, (∀ e ∈ w, Ty.isTypeChar e = true ∨ e = ' ') → d ∉ w := by
    intro w hw hmem
    obtain he | he := hw d hmem
    · rw [htype] at he
      cases he
    · exact hspace he
  have hkeyword : d ∉ c.keyword := by
    rw [keyword]
    split <;> exact hword _ (by decide)
  have hsuper : d ∉ c.superclassText := by
    rw [superclassText]
    split
    next s hs =>
      rw [List.mem_append, not_or]
      exact ⟨hword _ (by decide), (h.superclass s hs).not_mem hd⟩
    · exact List.not_mem_nil
  have hinterfaces : d ∉ c.interfacesText := by
    rw [interfacesText]
    split
    · exact List.not_mem_nil
    · rw [List.mem_append, not_or]
      refine ⟨hword _ (by decide), Text.not_mem_join ?_ fun t ht => ?_⟩
      · simpa using ⟨hcomma, hspace⟩
      · obtain ⟨name, hname, rfl⟩ := List.mem_map.1 ht
        exact (h.interfaces name hname).not_mem hd
  rw [headerLine]
  simp only [List.mem_append, List.mem_cons, not_or]
  exact ⟨not_mem_modifiersPrefix htype hspace _, hkeyword, hspace, h.name.not_mem hd,
    hsuper, hinterfaces⟩

/-- The header of a class has no blanks at its ends. -/
theorem isTight_headerLine (h : c.WellFormed) : Text.IsTight c.headerLine := by
  have hname : Text.IsTight (c.name.chars ++ c.superclassText) := by
    rw [superclassText]
    split
    next s hs =>
      rw [← List.append_assoc]
      exact h.name.isTight.append _ (h.superclass s hs).isTight
    · rw [List.append_nil]
      exact h.name.isTight
  have hlast : Text.IsTight (c.name.chars ++ c.superclassText ++ c.interfacesText) := by
    rw [interfacesText]
    split
    · rw [List.append_nil]
      exact hname
    next hne =>
      have hnames : c.interfaces ≠ [] := fun hnil => hne (List.isEmpty_iff.2 hnil)
      rw [← List.append_assoc]
      exact hname.append _ (isTight_classList h.interfaces hnames)
  have hkeyword : Text.IsTight c.keyword := by
    rw [keyword]
    split
    · exact Text.isTight_of_forall (by decide) (by decide)
    · exact Text.isTight_of_forall (by decide) (by decide)
  have hform : c.keyword ++ ' ' :: (c.name.chars ++ (c.superclassText ++ c.interfacesText)) =
      c.keyword ++ [' '] ++ (c.name.chars ++ c.superclassText ++ c.interfacesText) := by simp
  rw [headerLine, hform]
  exact isTight_modifiersPrefix _ (hkeyword.append [' '] hlast)

end Class

end Weaver
