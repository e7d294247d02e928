import Weaver.Proofs.Jimple.Ensured
import Weaver.Proofs.Jimple.Evolution
import Weaver.Proofs.Jimple.RoundTrip.Class

/-!
# Reading What Was Read and Written

The reader keeps most names without a look at them, and so it does with the arguments of calls
and with targets of assignments that are no locals. If these are of the right form, what was
read is well formed: its written form is read back, and writing it again changes nothing.

If they are not, this may fail. White space around the type of a declaration is dropped only
after the type has been compared with the words that begin statements, so a tab behind `goto`
gives a local of a type `goto`, which is written like a branch.

## Main definitions

* `Body.IsNamed`, `Class.IsNamed`: what the reader does not look at.

## Main results

* `Class.wellFormed_iff_of_read`: **what was read is well formed exactly if its names are**.
* `Body.WellFormed.read_text`: a body on its own is read back from its written form.
* `exists_read_text`: **written forms of what was read are stable**.
* `SampleTab.text_ne_of_read`: not so for the type `goto`.
-/

namespace Weaver

/-! ### What the reader does not look at -/

/-- The names in an invocation are well formed, and its arguments are operands. -/
structure Call.IsNamed (e : Invocation) : Prop where
  base : ∀ name ∈ e.base, IsLocal name
  method : e.method.WellFormed
  args : ∀ v ∈ e.args, v.IsOperand

/-- The names in the source of an assignment are well formed. -/
def Value.IsNamed : Value → Prop
  | .call e => e.IsNamed
  | .verbatim _ => True
  | v => v.IsOperand

/-- The names in a statement are well formed, its target is recognised, and it is not empty. -/
def Stmt.IsNamed : Stmt → Prop
  | .identity name rhs => IsLocal name ∧ rhs.WellFormed
  | .assign lhs rhs => lhs.IsTarget rhs ∧ rhs.IsNamed
  | .invoke e => e.IsNamed
  | .ret value => ∀ v ∈ value, v.IsOperand
  | .label _ => True
  | .verbatim code => code ≠ []

/-- What the reader does not look at in a body: the names in it are well formed. -/
structure Body.IsNamed (b : Body) : Prop where
  locals : ∀ l ∈ b.locals, l.ty.WellFormed
  stmts : ∀ s ∈ b.statements, s.IsNamed

/-- The names in a method are well formed. -/
structure Method.IsNamed (m : Method) : Prop where
  sig : m.sig.WellFormed
  throws : ∀ name ∈ m.throws, name.WellFormed
  body : ∀ b, m.body = some b → b.IsNamed

/-- The names in a class are well formed. -/
structure Class.IsNamed (c : Class) : Prop where
  name : c.name.WellFormed
  superclass : ∀ name ∈ c.superclass, name.WellFormed
  interfaces : ∀ name ∈ c.interfaces, name.WellFormed
  fields : ∀ f ∈ c.fields, IsWord f.name ∧ f.ty.WellFormed
  methods : ∀ m ∈ c.methods, m.IsNamed

/-! ### Well-formedness -/

/-- What is ensured of an invocation and well-formed names make it well formed. -/
theorem Call.IsGiven.wellFormed {e : Invocation} (h : e.IsGiven) (hnamed : e.IsNamed) :
    e.WellFormed :=
  ⟨h, hnamed.base, hnamed.method, hnamed.args⟩

/-- The same for the source of an assignment. -/
theorem Value.IsGiven.isSource {v : Value} (h : v.IsGiven) (hnamed : v.IsNamed) : v.IsSource := by
  cases v with
  | call e => exact .inr (.inl ⟨e, rfl, Call.IsGiven.wellFormed h hnamed⟩)
  | verbatim code => exact .inr (.inr ⟨code, rfl, h⟩)
  | var _ | const _ | alloc _ | instanceField _ _ | staticField _ => exact .inl hnamed

/-- The same for a statement. -/
theorem Stmt.IsGiven.wellFormed {s : Stmt} (h : s.IsGiven) (hnamed : s.IsNamed) :
    s.WellFormed := by
  cases s with
  | identity name rhs => exact hnamed
  | assign lhs rhs => exact ⟨hnamed.1, Value.IsGiven.isSource h hnamed.2⟩
  | invoke e => exact Call.IsGiven.wellFormed h hnamed
  | ret value => exact hnamed
  | label name => exact h
  | verbatim code => exact h.resolve_left hnamed

/-- A well-formed invocation has well-formed names. -/
theorem Call.WellFormed.isNamed {e : Invocation} (h : e.WellFormed) : e.IsNamed :=
  ⟨h.base, h.method, h.args⟩

/-- A value that may be assigned has well-formed names. -/
theorem Value.IsSource.isNamed {v : Value} (h : v.IsSource) : v.IsNamed := by
  obtain h | ⟨e, rfl, h⟩ | ⟨code, rfl, -⟩ := h
  · cases v with
    | call _ | verbatim _ => exact h.elim
    | var _ | const _ | alloc _ | instanceField _ _ | staticField _ => exact h
  · exact Call.WellFormed.isNamed h
  · trivial

/-- A well-formed statement has well-formed names. -/
theorem Stmt.WellFormed.isNamed {s : Stmt} (h : s.WellFormed) : s.IsNamed := by
  cases s with
  | identity name rhs => exact h
  | assign lhs rhs => exact ⟨h.1, Value.IsSource.isNamed h.2⟩
  | invoke e => exact Call.WellFormed.isNamed h
  | ret value => exact h
  | label name => trivial
  | verbatim code =>
    rintro rfl
    obtain h | ⟨first, cases, hcode, -, -, hall⟩ := h
    · obtain ⟨c, rest, hnil, -⟩ := h.head
      cases hnil
    · obtain ⟨hfeed, -, -⟩ :=
        BodyReading.lines_switch fun l hl => ⟨(hall l hl).1, (hall l hl).2.1⟩
      rw [← hcode] at hfeed
      cases hfeed

/-- A well-formed body has well-formed names. -/
theorem Body.WellFormed.isNamed {b : Body} (h : b.WellFormed) : b.IsNamed :=
  ⟨fun l hl => (h.locals l hl).2, fun s hs => (h.stmts s hs).isNamed⟩

/-- A well-formed class has well-formed names. -/
theorem Class.WellFormed.isNamed {c : Class} (h : c.WellFormed) : c.IsNamed where
  name := h.name
  superclass := h.superclass
  interfaces := h.interfaces
  fields := h.fields
  methods m hm :=
    { sig := (h.methods m hm).sig
      throws := (h.methods m hm).throws
      body := fun b hb => ((h.methods m hm).body b hb).isNamed }

/-- Names do not depend on order and handles. -/
theorem Body.IsNamed.normalized {b : Body} (h : b.IsNamed) : b.normalized.IsNamed where
  locals l hl := h.locals l (b.normalized_spec.2.1.mem_iff.1 hl)
  stmts s hs := h.stmts s (b.normalized_spec.2.2 ▸ hs)

/-- Reading keeps names well formed. -/
theorem Class.IsNamed.normalized {c : Class} (h : c.IsNamed) : c.normalized.IsNamed where
  name := h.name
  superclass := h.superclass
  interfaces := h.interfaces
  fields := h.fields
  methods m' hm' := by
    obtain ⟨m, hm, rfl⟩ := List.mem_map.1 hm'
    refine ⟨(h.methods m hm).sig, (h.methods m hm).throws, fun b' hb' => ?_⟩
    obtain ⟨b, hb, rfl⟩ := Option.map_eq_some_iff.1 hb'
    exact ((h.methods m hm).body b hb).normalized

/-- **A body that was read** is well formed as soon as its names are. -/
theorem Body.TakenFrom.wellFormed {lines : List Line} {m : MethodRef} {b : Body}
    (h : b.TakenFrom lines m) (hlines : ∀ line ∈ lines, line.Counts) (hnamed : b.IsNamed) :
    b.WellFormed ∧ b.method = m := by
  have hnames := h.sound.nodup_names
  obtain ⟨r, hgives, rfl⟩ := h.exists_gives hlines
  exact ⟨{
    locals := fun l hl => ⟨hgives.locals l hl, hnamed.locals l hl⟩
    distinct := hnames
    stmts := fun s hs => (hgives.stmts s hs).wellFormed (hnamed.stmts s hs)
    first := hgives.first }, hgives.method⟩

/-- **A class that was read** is well formed as soon as its names are. -/
theorem Class.wellFormed_of_read {s : Text} {c : Class} (h : Class.read s = .ok c)
    (hnamed : c.IsNamed) : c.WellFormed where
  name := hnamed.name
  superclass := hnamed.superclass
  interfaces := hnamed.interfaces
  fields := hnamed.fields
  methods m hm := by
    have hbody : ∀ b, m.body = some b → b.WellFormed ∧ b.method = c.refTo m.sig := fun b hb =>
      (takenFrom_of_read h hm hb).wellFormed (fun _ => counts_of_mem_significantLines)
        ((hnamed.methods m hm).body b hb)
    exact {
      sig := (hnamed.methods m hm).sig
      throws := (hnamed.methods m hm).throws
      owner := fun b hb => (hbody b hb).2
      body := fun b hb => (hbody b hb).1 }

/-- Nothing more is asked of a class that was read: **it is well formed exactly if its names
are**. -/
theorem Class.wellFormed_iff_of_read {s : Text} {c : Class} (h : Class.read s = .ok c) :
    c.WellFormed ↔ c.IsNamed :=
  ⟨WellFormed.isNamed, wellFormed_of_read h⟩

/-! ### Bodies on their own -/

/-- The brace behind lines that are taken ends a body. -/
theorem Body.readBraced_of_takes {r r' : BodyReading} {lines : List Line} (h : r.Takes lines r')
    {close : Line} (hclose : r'.isClosedBy close.text = true) (last : Nat) :
    readBraced last r (lines ++ [close]) = .ok r'.body := by
  induction h with
  | nil =>
    unfold readBraced
    simp only [List.nil_append, hclose, if_true]
  | cons hopen hstep _ ih =>
    rw [List.cons_append]
    unfold readBraced
    simp only [hopen, Bool.false_eq_true, if_false, hstep]
    exact ih hclose

/-- **A body on its own** is read back from its written form. -/
theorem Body.WellFormed.read_text {b : Body} (h : b.WellFormed) {method : Text}
    (hmethod : MethodRef.read method = .ok b.method) :
    Body.read method b.text = .ok b.normalized := by
  obtain ⟨r, ⟨ls, hshows, htakes⟩, hr, hclosed⟩ := h.reads
  have hbrace : ∀ brace : Text, Text.trim brace = brace → isSignificant brace = true →
      '\n' ∉ brace → Text.Shows (memberIndent ++ brace ++ ['\n']) [brace] :=
    fun _ htrim hcount hline =>
      Text.shows_line (fun _ hc => List.eq_of_mem_replicate hc) htrim hcount hline
  have hopen := hbrace openingBrace (by decide) (by decide) (by decide)
  have hclose := hbrace closingBrace (by decide) (by decide) (by decide)
  have hlines := ((hopen.append hshows).append hclose).significantLines
  rw [← b.text_eq, List.append_assoc, List.singleton_append] at hlines
  obtain ⟨first, rest, hsplit, hfirst, hrest⟩ := List.map_eq_cons_iff.1 hlines
  obtain ⟨middle, ends, rfl, hmiddle, hends⟩ := List.map_eq_append_iff.1 hrest
  obtain ⟨close, nothing, rfl, hlast, hnothing⟩ := List.map_eq_cons_iff.1 hends
  rw [List.map_eq_nil_iff.1 hnothing] at hsplit
  rw [Body.read, hmethod]
  simp only [hsplit, hfirst, if_true]
  rw [readBraced_of_takes (htakes middle hmiddle) (by rw [hlast]; exact hclosed), hr]

/-! ### Reading again -/

/-- **What was read and written is read back, and writing it again changes nothing**, whether the
text is read as a class or as the body of a method, as long as its names are well formed. -/
theorem exists_read_text (s : Text) :
    (∀ c, Class.read s = .ok c → c.IsNamed →
      ∃ c', Class.read c.text = .ok c' ∧ c'.text = c.text) ∧
    (∀ method b, Body.read method s = .ok b → b.IsNamed →
      ∃ b', Body.read method b.text = .ok b' ∧ b'.text = b.text) := by
  constructor
  · intro c h hnamed
    exact ⟨c.normalized, (Class.wellFormed_of_read h hnamed).read_text, c.text_normalized⟩
  · intro method b h hnamed
    obtain ⟨m, hmethod, htaken⟩ := Body.takenFrom_of_read h
    obtain ⟨hwell, hm⟩ :=
      htaken.wellFormed (fun _ => counts_of_mem_significantLines) hnamed
    exact ⟨b.normalized, hwell.read_text (hm ▸ hmethod), b.text_normalized⟩

namespace SampleListing

/-- The listing under a comment. -/
def commented : Text :=
  "  // A greeting.\n\n".toList ++ greeter.text

/-- The commented listing and its body are read, and read again with the same text. -/
theorem exists_read_text_commented :
    (Class.read commented = .ok greeter.normalized ∧ greeter.normalized.IsNamed ∧
      ∃ c', Class.read greeter.normalized.text = .ok c' ∧ c'.text = greeter.normalized.text) ∧
    (Body.read body.method.text body.text = .ok body.normalized ∧ body.normalized.IsNamed ∧
      ∃ b', Body.read body.method.text body.normalized.text = .ok b' ∧
        b'.text = body.normalized.text) := by
  have hlines : (significantLines commented).map Line.text =
      (significantLines greeter.text).map Line.text := by decide +kernel
  have hclass := wellFormed_greeter.read_of_lines hlines
  have hnamed := wellFormed_greeter.isNamed.normalized
  have hbody := wellFormed_body.read_text (MethodRef.read_text ⟨wellFormed_owner, wellFormed_greet⟩)
  have hbodyNamed := wellFormed_body.isNamed.normalized
  exact ⟨⟨hclass, hnamed, (exists_read_text _).1 _ hclass hnamed⟩,
    ⟨hbody, hbodyNamed, (exists_read_text _).2 _ _ hbody hbodyNamed⟩⟩

end SampleListing

/-! ### A class with a declaration that is none -/

namespace SampleTab

/-- A class with these lines in its only method. -/
def inMethod (code : List Text) : Text :=
  (["class A".toList, openingBrace, "    void f()".toList, memberIndent ++ openingBrace] ++ code ++
    [memberIndent ++ closingBrace, closingBrace]).flatMap (· ++ ['\n'])

/-- The tab behind `goto` makes the line look like the declaration of a local. -/
def listing : Text :=
  inMethod ["        goto\t l;".toList, "        return;".toList]

/-- The text as it is written: without the tab, and with a blank line behind the locals. -/
def written : Text :=
  inMethod ["        goto l;".toList, [], "        return;".toList]

/-- Without the tab, it is a branch. -/
def branch : Body where
  method := { cls := ⟨"A".toList⟩, sig := ⟨.void, "f".toList, []⟩ }
  locals := []
  stmts := [(⟨0⟩, .verbatim "goto l".toList), (⟨1⟩, .ret none)]
  nextId := 2

/-- The class with the branch. -/
def branching : Class where
  name := ⟨"A".toList⟩
  modifiers := []
  isInterface := false
  superclass := none
  interfaces := []
  fields := []
  methods := [{ sig := branch.method.sig, modifiers := [], throws := [], body := some branch }]

/-- Without the tab, the branch is plain code. -/
theorem isPlainCode_gotoL : IsPlainCode "goto l".toList where
  line := by decide
  head := ⟨'g', "oto l".toList, rfl, rfl⟩
  notComment := rfl
  notSwitch := rfl
  notReturn := ⟨by decide, rfl⟩
  notIdentity := rfl
  noCall := isNoCall_of_head (by decide)
  notAssign := rfl

/-- The body with the branch is well formed. -/
theorem wellFormed_branch : branch.WellFormed where
  locals := by simp [branch]
  distinct := by simp [branch]
  stmts := by
    simp only [Body.statements, branch, List.map_cons, List.map_nil, List.forall_mem_cons,
      List.not_mem_nil, false_imp_iff, implies_true, and_true]
    exact ⟨.inl isPlainCode_gotoL, by simp [Stmt.WellFormed]⟩
  first := by
    rintro code ⟨rfl⟩
    decide

/-- The class with the branch is well formed. -/
theorem wellFormed_branching : branching.WellFormed where
  name := ⟨by decide, ⟨'A', [], rfl, rfl, rfl⟩, by decide⟩
  superclass := by simp [branching]
  interfaces := by simp [branching]
  fields := by simp [branching]
  methods := by
    simp only [branching, List.forall_mem_singleton]
    refine ⟨⟨trivial, .inl ⟨by decide, by decide⟩, by simp [branch]⟩, by simp, ?_, ?_⟩
    · rintro b ⟨rfl⟩
      rfl
    · rintro b ⟨rfl⟩
      exact wellFormed_branch

/-- The local of type `goto` is written like a branch. -/
theorem exists_read_listing : ∃ c, Class.read listing = .ok c ∧ c.text = written := by
  have h : (Class.read listing).toOption.map Class.text = some written := by decide +kernel
  cases hread : Class.read listing with
  | error fault => simp [hread, Except.toOption] at h
  | ok c => exact ⟨c, rfl, by simpa [hread, Except.toOption] using h⟩

/-- **What was read from this class and written does not stay the same.** -/
theorem text_ne_of_read : ∃ c c' : Class, Class.read listing = .ok c ∧
    Class.read c.text = .ok c' ∧ c'.text ≠ c.text := by
  obtain ⟨c, hread, htext⟩ := exists_read_listing
  have hlines : (significantLines written).map Line.text =
      (significantLines branching.text).map Line.text := by decide +kernel
  refine ⟨c, branching.normalized, hread, ?_, ?_⟩
  · rw [htext]
    exact wellFormed_branching.read_of_lines hlines
  · rw [htext, branching.text_normalized]
    decide +kernel

end SampleTab

end Weaver
