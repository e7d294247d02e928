import Mathlib.Data.List.Basic
import Weaver.Jimple.Reader.Class
import Weaver.Proofs.Jimple.RoundTrip.Body
import Weaver.Proofs.Jimple.RoundTrip.Member

/-!
# Reading Undoes Printing

The reader of a class takes the lines of a written class one after the other: its header,
its fields, and its methods with their bodies. A well-formed class is given back but for
the order of locals of different types and the handles of statements, which the written form
does not show.

## Main results

* `ClassReading.reads_field`, `ClassReading.reads_method`: what is written for a member adds it.
* `Class.read_text_eq_normalized`: **reading undoes printing**.
-/

namespace Weaver

/-! ### Normal forms -/

/-- The method with its body as a reader gives it back. -/
def Method.normalized (m : Method) : Method :=
  { m with body := m.body.map Body.normalized }

/-- The class with its bodies as a reader gives them back. -/
def Class.normalized (c : Class) : Class :=
  { c with methods := c.methods.map Method.normalized }

/-- New handles do not show in the written form of a method. -/
theorem Method.text_normalized (m : Method) : m.normalized.text = m.text := by
  obtain ⟨sig, modifiers, throws, body⟩ := m
  cases body with
  | none => rfl
  | some b =>
    have hheader : (normalized ⟨sig, modifiers, throws, some b⟩).header =
        header ⟨sig, modifiers, throws, some b⟩ := rfl
    have hbody : (normalized ⟨sig, modifiers, throws, some b⟩).body = some b.normalized := rfl
    rw [text, hbody, hheader, text]
    simp only [b.text_normalized]

/-- New handles do not show in the written form of a class. -/
theorem Class.text_normalized (c : Class) : c.normalized.text = c.text := by
  have hheader : c.normalized.header = c.header := rfl
  have hmethods : methodsText c.normalized.methods = methodsText c.methods := by
    have htexts : c.normalized.methods.map Method.text = c.methods.map Method.text := by
      rw [normalized, List.map_map]
      exact List.map_congr_left fun m _ => m.text_normalized
    rw [methodsText, htexts, methodsText]
  have hempty : c.normalized.methods.isEmpty = c.methods.isEmpty := List.isEmpty_map
  have hfields : c.normalized.fields = c.fields := rfl
  rw [text, hheader, hmethods, hempty, hfields, text]

/-! ### Taking lines -/

namespace ClassReading

/-- Reading the lines that a text shows takes the reader from `r` to `r'`. -/
def Reads (r : ClassReading) (t : Text) (r' : ClassReading) : Prop :=
  ∃ ls, Text.Shows t ls ∧ ∀ lines : List Line, lines.map Line.text = ls →
    ∀ rest, stepAll r (lines ++ rest) = stepAll r' rest

variable {r r' r'' : ClassReading}

/-- **What is written first is read first.** -/
theorem Reads.append {t t' : Text} (h : Reads r t r') (h' : Reads r' t' r'') :
    Reads r (t ++ t') r'' := by
  obtain ⟨ls, hshows, hsteps⟩ := h
  obtain ⟨ls', hshows', hsteps'⟩ := h'
  refine ⟨ls ++ ls', hshows.append hshows', fun lines hlines rest => ?_⟩
  obtain ⟨l₁, l₂, rfl, h₁, h₂⟩ := List.map_eq_append_iff.1 hlines
  rw [List.append_assoc, hsteps l₁ h₁, hsteps' l₂ h₂]

theorem reads_of_shows_nil {t : Text} (h : Text.Shows t []) (r : ClassReading) : Reads r t r := by
  refine ⟨[], h, fun lines hlines rest => ?_⟩
  rw [List.map_eq_nil_iff.1 hlines]
  rfl

/-- One line takes the reader one step further. -/
theorem reads_line {pad s : Text} (hpad : ∀ c ∈ pad, c = ' ') (htrim : Text.trim s = s)
    (hcount : isSignificant s = true) (hline : '\n' ∉ s)
    (hstep : ∀ line : Line, line.text = s → r.step line = .ok r') :
    Reads r (pad ++ s ++ ['\n']) r' := by
  refine ⟨[s], Text.shows_line hpad htrim hcount hline, fun lines hlines rest => ?_⟩
  obtain ⟨line, more, rfl, htext, hmore⟩ := List.map_eq_cons_iff.1 hlines
  rw [List.map_eq_nil_iff.1 hmore, List.singleton_append, stepAll]
  simp only [hstep line htext]

/-- Members are indented with spaces. -/
theorem memberIndent_blank : ∀ c ∈ memberIndent, c = ' ' :=
  fun _ hc => List.eq_of_mem_replicate hc

/-- Inside a method, the reader of the class does what the reader of the body does. -/
theorem stepAll_of_takes (cls : Class) (m : Method) {b b' : BodyReading} {lines : List Line}
    (h : b.Takes lines b') (rest : List Line) :
    stepAll ⟨cls, .body m b⟩ (lines ++ rest) = stepAll ⟨cls, .body m b'⟩ rest := by
  induction h with
  | nil => rfl
  | cons hopen hstep _ ih =>
    rw [List.cons_append, stepAll, ClassReading.step]
    simp only [hopen, Bool.false_eq_true, if_false, hstep, Except.map]
    exact ih

/-- Reading a body takes the reader of its class along. -/
theorem reads_of_body {cls : Class} {m : Method} {b b' : BodyReading} {t : Text}
    (h : b.Reads t b') : Reads ⟨cls, .body m b⟩ t ⟨cls, .body m b'⟩ := by
  obtain ⟨ls, hshows, htakes⟩ := h
  exact ⟨ls, hshows, fun lines hlines rest => stepAll_of_takes cls m (htakes lines hlines) rest⟩

/-! ### Members -/

/-- **What is written for a field adds it.** -/
theorem reads_field (cls : Class) {f : Field} (hname : IsWord f.name) (hty : f.ty.WellFormed) :
    Reads ⟨cls, .members⟩ f.line (addField ⟨cls, .members⟩ f) := by
  have htight := Field.isTight_declaration (f := f) hty
  have hcomment : Text.startsWith f.declaration "//".toList = false :=
    Text.startsWith_comment_of_not_mem
      (Field.not_mem_declaration hname hty rfl (by decide) (by decide))
  have hline : '\n' ∉ f.declaration :=
    Field.not_mem_declaration hname hty rfl (by decide) (by decide)
  rw [f.line_eq]
  refine reads_line memberIndent_blank htight.trim_eq
    (Text.isSignificant_of_isTight htight hcomment) hline fun line htext => ?_
  have hbrace : f.declaration ≠ closingBrace := by
    have hmem : '\x7d' ∉ f.declaration :=
      Field.not_mem_declaration hname hty rfl (by decide) (by decide)
    intro heq
    exact hmem (heq ▸ List.mem_cons_self)
  have hparen : List.contains f.declaration '(' = false := by
    rw [Bool.eq_false_iff, Ne, List.contains_iff_mem]
    exact Field.not_mem_declaration hname hty rfl (by decide) (by decide)
  rw [ClassReading.step]
  simp only [stepMember, htext, if_neg hbrace, hparen, Bool.false_eq_true, if_false,
    Field.read_declaration hname hty]
  rfl

/-- An opening brace on its own line. -/
theorem reads_openingBrace {pad : Text} (hpad : ∀ c ∈ pad, c = ' ')
    (hstep : ∀ line : Line, line.text = openingBrace → r.step line = .ok r') :
    Reads r (pad ++ openingBrace ++ ['\n']) r' :=
  reads_line hpad (by decide) (by decide) (by decide) hstep

/-- A closing brace on its own line. -/
theorem reads_closingBrace {pad : Text} (hpad : ∀ c ∈ pad, c = ' ')
    (hstep : ∀ line : Line, line.text = closingBrace → r.step line = .ok r') :
    Reads r (pad ++ closingBrace ++ ['\n']) r' :=
  reads_line hpad (by decide) (by decide) (by decide) hstep

/-- The first line of a method leads to its body, or adds it if it has none. -/
theorem reads_methodHeader (cls : Class) {m : Method} (hsig : m.sig.WellFormed)
    (hthrows : ∀ name ∈ m.throws, name.WellFormed) :
    Reads ⟨cls, .members⟩ (m.header ++ ['\n']) ⟨cls, .bodyOpening { m with body := none }⟩ ∧
      Reads ⟨cls, .members⟩ (m.header ++ ";\n".toList)
        (addMethod ⟨cls, .members⟩ { m with body := none }) := by
  have htight := Method.isTight_headerLine hsig hthrows
  have hslash : '/' ∉ m.headerLine := Method.not_mem_headerLine hsig hthrows rfl (by decide)
  have hfeed : '\n' ∉ m.headerLine := Method.not_mem_headerLine hsig hthrows rfl (by decide)
  have hbrace : '\x7d' ∉ m.headerLine := Method.not_mem_headerLine hsig hthrows rfl (by decide)
  have hparen : '(' ∈ m.headerLine := by simp [Method.headerLine]
  obtain ⟨hbody, hnone⟩ := Method.readHeader_headerLine hsig hthrows
  -- Neither form of the line is a closing brace, which would end the class.
  have hne : ∀ tail, '\x7d' ∉ tail → m.headerLine ++ tail ≠ closingBrace := by
    intro tail htail heq
    have hmem : '\x7d' ∈ m.headerLine ++ tail := heq ▸ List.mem_cons_self
    obtain hmem | hmem := List.mem_append.1 hmem
    · exact hbrace hmem
    · exact htail hmem
  constructor
  · rw [m.header_eq]
    refine reads_line memberIndent_blank htight.trim_eq (Text.isSignificant_of_isTight htight
      (Text.startsWith_comment_of_not_mem hslash)) hfeed fun line htext => ?_
    have hclose : m.headerLine ≠ closingBrace := by
      have := hne [] List.not_mem_nil
      rwa [List.append_nil] at this
    rw [ClassReading.step]
    simp only [stepMember, htext, if_neg hclose, List.contains_iff_mem.2 hparen, if_true, hbody]
  · have hend : Text.IsTight [';'] := Text.isTight_of_forall (by decide) (by decide)
    have htightEnd : Text.IsTight (m.headerLine ++ ";".toList) := by
      have := htight.append [] hend
      rwa [List.append_nil] at this
    have hslashEnd : '/' ∉ m.headerLine ++ ";".toList := by
      rw [List.mem_append, not_or]
      exact ⟨hslash, by decide⟩
    have hfeedEnd : '\n' ∉ m.headerLine ++ ";".toList := by
      rw [List.mem_append, not_or]
      exact ⟨hfeed, by decide⟩
    have hform : m.header ++ ";\n".toList =
        memberIndent ++ (m.headerLine ++ ";".toList) ++ ['\n'] := by
      rw [m.header_eq]
      simp only [List.append_assoc]
      rfl
    rw [hform]
    refine reads_line memberIndent_blank htightEnd.trim_eq (Text.isSignificant_of_isTight htightEnd
      (Text.startsWith_comment_of_not_mem hslashEnd)) hfeedEnd fun line htext => ?_
    have hclose : m.headerLine ++ ";".toList ≠ closingBrace := hne _ (by decide)
    have hparenEnd : '(' ∈ m.headerLine ++ ";".toList := List.mem_append_left _ hparen
    rw [ClassReading.step]
    simp only [stepMember, htext, if_neg hclose, List.contains_iff_mem.2 hparenEnd, if_true, hnone]

/-- **What is written for a method adds it.** -/
theorem reads_method {c cls : Class} {m : Method} (h : m.WellFormed c) (hname : cls.name = c.name) :
    Reads ⟨cls, .members⟩ m.text (addMethod ⟨cls, .members⟩ m.normalized) := by
  obtain ⟨hheader, hdeclared⟩ := reads_methodHeader cls h.sig h.throws
  cases hbody : m.body with
  | none =>
    have hform : m.text = m.header ++ ";\n".toList := by rw [Method.text, hbody]
    have hsame : m.normalized = { m with body := none } := by rw [Method.normalized, hbody]; rfl
    rw [hform, hsame]
    exact hdeclared
  | some b =>
    have howner : cls.refTo m.sig = b.method := by
      rw [h.owner b hbody, Class.refTo, hname, Class.refTo]
    -- The header, the opening brace, the body and the closing brace are read in turn.
    obtain ⟨r, hreads, hr, hclosed⟩ := (h.body b hbody).reads
    have hform : m.text = m.header ++ ['\n'] ++ (memberIndent ++ openingBrace ++ ['\n']) ++
        b.inner ++ (memberIndent ++ closingBrace ++ ['\n']) := by
      rw [Method.text, hbody]
      simp only [b.text_eq, List.append_assoc, List.cons_append, List.nil_append]
    have hopen : Reads ⟨cls, .bodyOpening { m with body := none }⟩
        (memberIndent ++ openingBrace ++ ['\n'])
        ⟨cls, .body { m with body := none } (.start b.method)⟩ := by
      refine reads_openingBrace memberIndent_blank fun line htext => ?_
      rw [ClassReading.step]
      simp only [openBrace, htext, if_true, howner]
    have hclose : Reads ⟨cls, .body { m with body := none } r⟩
        (memberIndent ++ closingBrace ++ ['\n']) (addMethod ⟨cls, .members⟩ m.normalized) := by
      refine reads_closingBrace memberIndent_blank fun line htext => ?_
      have hsame : m.normalized = { m with body := some b.normalized } := by
        rw [Method.normalized, hbody]
        rfl
      rw [ClassReading.step, hsame]
      simp only [htext, hclosed, if_true, hr]
      rfl
    rw [hform]
    exact ((hheader.append hopen).append (reads_of_body hreads)).append hclose

/-- **What is written for fields adds them in order.** -/
theorem reads_fields {fs : List Field} (h : ∀ f ∈ fs, IsWord f.name ∧ f.ty.WellFormed)
    (cls : Class) : Reads ⟨cls, .members⟩ (fs.flatMap Field.line)
      ⟨{ cls with fields := cls.fields ++ fs }, .members⟩ := by
  induction fs generalizing cls with
  | nil =>
    rw [List.append_nil]
    exact reads_of_shows_nil Text.shows_nil _
  | cons f fs ih =>
    rw [List.forall_mem_cons] at h
    have hrest := ih h.2 { cls with fields := cls.fields ++ [f] }
    rw [List.append_assoc, List.singleton_append] at hrest
    rw [List.flatMap_cons]
    exact (reads_field cls h.1.1 h.1.2).append hrest

/-- **What is written for methods adds them in order.** -/
theorem reads_methods {c : Class} {ms : List Method} (h : ∀ m ∈ ms, m.WellFormed c) (cls : Class)
    (hname : cls.name = c.name) : Reads ⟨cls, .members⟩ (Class.methodsText ms)
      ⟨{ cls with methods := cls.methods ++ ms.map Method.normalized }, .members⟩ := by
  induction ms generalizing cls with
  | nil =>
    rw [List.map_nil, List.append_nil]
    exact reads_of_shows_nil Text.shows_nil _
  | cons m ms ih =>
    rw [List.forall_mem_cons] at h
    have hfirst := reads_method h.1 hname
    cases ms with
    | nil => exact hfirst
    | cons m' ms =>
      have hrest := ih h.2 { cls with methods := cls.methods ++ [m.normalized] } hname
      rw [List.append_assoc, List.singleton_append] at hrest
      have hform : Class.methodsText (m :: m' :: ms) =
          m.text ++ ['\n'] ++ Class.methodsText (m' :: ms) := rfl
      rw [hform]
      exact (hfirst.append (reads_of_shows_nil Text.shows_blank _)).append hrest

end ClassReading

/-! ### Classes -/

open ClassReading

/-- What is written behind the first line of a class adds its members and closes it. -/
theorem Class.WellFormed.reads {c : Class} (h : c.WellFormed) :
    Reads ⟨{ c with fields := [], methods := [] }, .opening⟩
      (openingBrace ++ ['\n'] ++ c.fields.flatMap Field.line ++
        (if c.fields.isEmpty || c.methods.isEmpty then [] else ['\n']) ++ methodsText c.methods ++
        (closingBrace ++ ['\n'])) ⟨c.normalized, .closed⟩ := by
  have hnone : ∀ d ∈ ([] : Text), d = ' ' := by decide
  have hopen : Reads ⟨{ c with fields := [], methods := [] }, .opening⟩ (openingBrace ++ ['\n'])
      ⟨{ c with fields := [], methods := [] }, .members⟩ := by
    refine reads_openingBrace hnone fun line htext => ?_
    rw [ClassReading.step]
    simp only [openBrace, htext, if_true]
  have hfields := reads_fields h.fields { c with fields := [], methods := [] }
  have hblank : Text.Shows (if c.fields.isEmpty || c.methods.isEmpty then [] else ['\n']) [] := by
    split
    · exact Text.shows_nil
    · exact Text.shows_blank
  have hmethods := reads_methods h.methods { c with methods := [] } rfl
  have hclose : Reads ⟨c.normalized, .members⟩ (closingBrace ++ ['\n'])
      ⟨c.normalized, .closed⟩ := by
    refine reads_closingBrace hnone fun line htext => ?_
    rw [ClassReading.step]
    simp only [stepMember, htext, if_true]
  exact (((hopen.append hfields).append (reads_of_shows_nil hblank _)).append
    hmethods).append hclose

/-- The written class is its header and, between braces, its fields and its methods. -/
theorem Class.text_eq (c : Class) : c.text = c.headerLine ++ ['\n'] ++
    (openingBrace ++ ['\n'] ++ c.fields.flatMap Field.line ++
      (if c.fields.isEmpty || c.methods.isEmpty then [] else ['\n']) ++ methodsText c.methods ++
      (closingBrace ++ ['\n'])) := by
  rw [text, header_eq]
  simp only [List.append_assoc, List.cons_append, List.nil_append]

/-- Only the lines that count matter: a text in which they are those of a written class gives
this class. -/
theorem Class.WellFormed.read_of_lines {c : Class} (h : c.WellFormed) {s : Text}
    (hs : (significantLines s).map Line.text = (significantLines c.text).map Line.text) :
    Class.read s = .ok c.normalized := by
  obtain ⟨ls, hshows, hsteps⟩ := h.reads
  have htight := isTight_headerLine h
  have hslash : '/' ∉ c.headerLine := not_mem_headerLine h rfl (by decide) (by decide)
  have hfeed : '\n' ∉ c.headerLine := not_mem_headerLine h rfl (by decide) (by decide)
  have hnone : ∀ d ∈ ([] : Text), d = ' ' := by decide
  have hheader : Text.Shows (c.headerLine ++ ['\n']) [c.headerLine] :=
    Text.shows_line hnone htight.trim_eq (Text.isSignificant_of_isTight htight
      (Text.startsWith_comment_of_not_mem hslash)) hfeed
  have hlines := (hheader.append hshows).significantLines
  rw [← c.text_eq, ← hs] at hlines
  obtain ⟨first, rest, hsplit, hfirst, hrest⟩ := List.map_eq_cons_iff.1 hlines
  have hall : stepAll ⟨{ c with fields := [], methods := [] }, .opening⟩ rest =
      .ok ⟨c.normalized, .closed⟩ := by
    have := hsteps rest hrest []
    rwa [List.append_nil] at this
  rw [Class.read, hsplit]
  simp only [hfirst, readHeader_headerLine h, hall]
  rfl

/-- The lines of a well-formed class are read one after the other. -/
theorem Class.WellFormed.read_text {c : Class} (h : c.WellFormed) :
    Class.read c.text = .ok c.normalized :=
  h.read_of_lines rfl

/-- **Reading undoes printing.** A well-formed class is read back from its written form, with
the locals of each body in the order in which they are written and new handles for its
statements; what is read is written like the class itself. -/
theorem Class.read_text_eq_normalized {c : Class} (h : c.WellFormed) :
    Class.read c.text = .ok c.normalized ∧ c.normalized.text = c.text :=
  ⟨h.read_text, c.text_normalized⟩

/-! ### A written class -/

namespace SampleListing

/-- A class of the sample. -/
def owner : ClassName :=
  ⟨"demo.Greeter".toList⟩

/-- Prints a greeting. -/
def say : MethodRef :=
  { cls := owner, sig := ⟨.void, "say".toList, [.ref owner, .int]⟩ }

/-- The field of the sample. -/
def next : FieldRef :=
  { cls := owner, ty := .ref owner, name := "next".toList }

/-- The method of the sample. -/
def greet : Signature :=
  ⟨.void, "greet".toList, [.int]⟩

/-- The call has a string among its arguments that looks like code. -/
def call : Invocation :=
  { kind := .virtual, base := some "r1".toList, method := say
    args := [.const (.string "r0, \"x\" = (y); \n".toList), .var "i0".toList] }

/-- The local in the middle is written last. -/
def body : Body where
  method := { cls := owner, sig := greet }
  locals := [⟨"r0".toList, .ref owner⟩, ⟨"i0".toList, .int⟩, ⟨"r1".toList, .ref owner⟩]
  stmts := [
    (⟨4⟩, .identity "r0".toList (.this (.ref owner))),
    (⟨2⟩, .identity "i0".toList (.parameter 0 .int)),
    (⟨7⟩, .label "label1".toList),
    (⟨5⟩, .assign (.var "r1".toList) (.instanceField "r0".toList next)),
    (⟨1⟩, .invoke call),
    (⟨8⟩, .verbatim "goto label1".toList),
    (⟨0⟩, .ret none)]
  nextId := 9

/-- The class. -/
def greeter : Class where
  name := owner
  modifiers := [.pub, .final]
  isInterface := false
  superclass := some ⟨"java.lang.Object".toList⟩
  interfaces := []
  fields := [⟨"next".toList, .ref owner, [.priv]⟩]
  methods := [{ sig := greet, modifiers := [.pub], throws := [], body := some body }]

theorem wellFormed_owner : owner.WellFormed where
  chars := by decide
  head := ⟨'d', "emo.Greeter".toList, rfl, rfl, rfl⟩
  free := by decide

theorem isLocal_r0 : IsLocal "r0".toList :=
  ⟨rfl, by decide, by decide, rfl⟩

theorem isLocal_r1 : IsLocal "r1".toList :=
  ⟨rfl, by decide, by decide, rfl⟩

theorem isLocal_i0 : IsLocal "i0".toList :=
  ⟨rfl, by decide, by decide, rfl⟩

theorem wellFormed_next : next.WellFormed :=
  ⟨wellFormed_owner, wellFormed_owner, by decide, by decide⟩

/-- The signature of the method is well formed. -/
theorem wellFormed_greet : greet.WellFormed where
  ret := trivial
  name := .inl ⟨by decide, by decide⟩
  params := by
    rintro ty hty
    rw [List.mem_singleton.1 hty]
    trivial

/-- The reference to the method that is invoked is well formed. -/
theorem wellFormed_say : say.WellFormed where
  cls := wellFormed_owner
  sig := {
    ret := trivial
    name := .inl ⟨by decide, by decide⟩
    params := by
      simp only [say, List.forall_mem_cons, List.not_mem_nil, false_imp_iff, implies_true, and_true]
      exact ⟨wellFormed_owner, trivial⟩ }

/-- The invocation is well formed. -/
theorem wellFormed_call : call.WellFormed where
  static := by decide
  base := by
    rintro name ⟨rfl⟩
    exact isLocal_r1
  method := wellFormed_say
  args := by
    simp only [call, List.forall_mem_cons, List.not_mem_nil, false_imp_iff, implies_true, and_true]
    exact ⟨trivial, isLocal_i0⟩

/-- The jump is kept as it is written. -/
theorem isPlainCode_goto : IsPlainCode "goto label1".toList where
  line := by decide
  head := ⟨'g', "oto label1".toList, rfl, rfl⟩
  notComment := rfl
  notSwitch := rfl
  notReturn := ⟨by decide, rfl⟩
  notIdentity := rfl
  noCall := isNoCall_of_head (by decide)
  notAssign := rfl

/-- The body is well formed. -/
theorem wellFormed_body : body.WellFormed where
  locals := by
    simp only [body, List.forall_mem_cons, List.not_mem_nil, false_imp_iff, implies_true, and_true]
    exact ⟨⟨rfl, wellFormed_owner⟩, ⟨rfl, trivial⟩, ⟨rfl, wellFormed_owner⟩⟩
  distinct := by decide
  stmts := by
    simp only [Body.statements, body, List.map_cons, List.map_nil, List.forall_mem_cons,
      List.not_mem_nil, false_imp_iff, implies_true, and_true]
    exact ⟨⟨isLocal_r0, wellFormed_owner⟩, ⟨isLocal_i0, trivial⟩, rfl,
      ⟨isLocal_r1, .inl ⟨isLocal_r0, wellFormed_next⟩⟩, wellFormed_call, .inl isPlainCode_goto,
      by simp [Stmt.WellFormed]⟩
  first := by
    rintro code h
    cases h

/-- The class is well formed. -/
theorem wellFormed_greeter : greeter.WellFormed where
  name := wellFormed_owner
  superclass := by
    rintro name ⟨rfl⟩
    exact ⟨by decide, ⟨'j', "ava.lang.Object".toList, rfl, rfl, rfl⟩, by decide⟩
  interfaces := by simp [greeter]
  fields := by
    simp only [greeter, List.forall_mem_cons, List.not_mem_nil, false_imp_iff,
      implies_true, and_true]
    exact ⟨⟨by decide, by decide⟩, wellFormed_owner⟩
  methods := by
    simp only [greeter, List.forall_mem_cons, List.not_mem_nil, false_imp_iff,
      implies_true, and_true]
    refine ⟨wellFormed_greet, by simp, ?_, ?_⟩
    · rintro b ⟨rfl⟩
      rfl
    · rintro b ⟨rfl⟩
      exact wellFormed_body

/-- The class of the example is read back, up to new handles, and written again the same. -/
theorem read_text_eq_normalized_greeter : greeter.WellFormed ∧
    Class.read greeter.text = .ok greeter.normalized ∧ greeter.normalized.text = greeter.text :=
  ⟨wellFormed_greeter, Class.read_text_eq_normalized wellFormed_greeter⟩

end SampleListing

end Weaver
