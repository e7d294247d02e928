import Mathlib.Data.List.Basic
import Weaver.Jimple.Printer
import Weaver.Proofs.Jimple.Chain
import Weaver.Proofs.Jimple.RoundTrip.Declaration

/-!
# Reading Back Bodies

A text that is put together from whole lines takes the reader of a body from one state to
another. What the printer writes for a group of locals declares them, and what it writes
for a statement, be it one line or the lines of a switch, adds that statement.

## Main results

* `BodyReading.Reads.append`: **what is written first is read first**.
* `Stmt.WellFormed.reads`: what is written for a statement adds it.
* `Body.WellFormed.reads`: what is written between the braces of a body gives back its
  locals, group by group, and its statements with new handles.
-/

namespace Weaver

/-! ### Taking lines -/

/-- The reader of a body takes some lines, none of which closes the body. -/
inductive BodyReading.Takes : BodyReading → List Line → BodyReading → Prop where
  | nil (r : BodyReading) : Takes r [] r
  | cons {r r' r'' : BodyReading} {line : Line} {rest : List Line}
      (hopen : r.isClosedBy line.text = false) (hstep : r.step line = .ok r')
      (hrest : Takes r' rest r'') : Takes r (line :: rest) r''

namespace BodyReading

variable {r r' r'' : BodyReading}

/-- Lines that are taken one run after the other are taken in one run. -/
theorem Takes.append {lines lines' : List Line} (h : Takes r lines r') (h' : Takes r' lines' r'') :
    Takes r (lines ++ lines') r'' := by
  induction h with
  | nil => exact h'
  | cons hopen hstep _ ih => exact .cons hopen hstep (ih h')

/-- Reading the lines that a text shows takes the reader from `r` to `r'`. -/
def Reads (r : BodyReading) (t : Text) (r' : BodyReading) : Prop :=
  ∃ ls, Text.Shows t ls ∧ ∀ lines : List Line, lines.map Line.text = ls → Takes r lines r'

/-- **What is written first is read first.** -/
theorem Reads.append {t t' : Text} (h : Reads r t r') (h' : Reads r' t' r'') :
    Reads r (t ++ t') r'' := by
  obtain ⟨ls, hshows, htakes⟩ := h
  obtain ⟨ls', hshows', htakes'⟩ := h'
  refine ⟨ls ++ ls', hshows.append hshows', fun lines hlines => ?_⟩
  obtain ⟨l₁, l₂, rfl, h₁, h₂⟩ := List.map_eq_append_iff.1 hlines
  exact (htakes l₁ h₁).append (htakes' l₂ h₂)

/-- What shows no lines changes nothing. -/
theorem reads_of_shows_nil {t : Text} (h : Text.Shows t []) (r : BodyReading) : Reads r t r := by
  refine ⟨[], h, fun lines hlines => ?_⟩
  rw [List.map_eq_nil_iff.1 hlines]
  exact .nil r

/-- One line takes the reader one step further. -/
theorem reads_line {pad s : Text} (hpad : ∀ c ∈ pad, c = ' ') (htrim : Text.trim s = s)
    (hcount : isSignificant s = true) (hline : '\n' ∉ s) (hopen : r.isClosedBy s = false)
    (hstep : ∀ line : Line, line.text = s → r.step line = .ok r') :
    Reads r (pad ++ s ++ ['\n']) r' := by
  refine ⟨[s], Text.shows_line hpad htrim hcount hline, fun lines hlines => ?_⟩
  obtain ⟨line, rest, rfl, htext, hrest⟩ := List.map_eq_cons_iff.1 hlines
  rw [List.map_eq_nil_iff.1 hrest]
  exact .cons (by rw [htext]; exact hopen) (hstep line htext) (.nil r')

/-- Statements are indented with spaces. -/
theorem stmtIndent_blank : ∀ c ∈ stmtIndent, c = ' ' :=
  fun _ hc => List.eq_of_mem_replicate hc

/-! ### Phases -/

/-- The reader expects a statement, or else a declaration, which `line` is none of. -/
def Expects (r : BodyReading) (line : Text) : Prop :=
  r.phase = .statements ∨ r.phase = .declarations ∧ readDeclaration? line = none

/-- Where a statement is expected, the line is read as one. -/
theorem Expects.step {line : Line} (h : r.Expects line.text) :
    r.step line = r.stepStatement line := by
  obtain ⟨b, phase⟩ := r
  obtain hphase | ⟨hphase, hdecl⟩ := h
  · obtain rfl : phase = .statements := hphase
    rfl
  · obtain rfl : phase = .declarations := hphase
    simp only [BodyReading.step, hdecl]
    unfold stepStatement
    rfl

/-- Where a statement is expected, only the closing brace ends the body. -/
theorem Expects.isClosedBy {line : Text} (h : r.Expects line) (s : Text) :
    r.isClosedBy s = (s == closingBrace) := by
  obtain ⟨b, phase⟩ := r
  obtain hphase | ⟨hphase, -⟩ := h
  · obtain rfl : phase = .statements := hphase
    rfl
  · obtain rfl : phase = .declarations := hphase
    rfl

/-! ### One line -/

/-- What ends otherwise is no closing brace. -/
theorem append_ne_closingBrace (s : Text) {d : Char} (hd : d ≠ '\x7d') :
    s ++ [d] ≠ closingBrace := by
  intro heq
  have hlast := congrArg List.getLast? heq
  rw [List.getLast?_concat] at hlast
  exact hd (Option.some.inj hlast)

/-- What ends in another character has no such suffix. -/
theorem stripSuffix?_eq_none_of_last {c d : Char} (h : d ≠ c) (s : Text) :
    Text.stripSuffix? [c] (s ++ [d]) = none := by
  rw [Text.stripSuffix?_eq_none_iff]
  intro rest heq
  exact h (List.append_inj_right' heq rfl |> List.cons.inj |>.1)

/-- **A statement on its own line adds itself.** -/
theorem reads_ownLine {s : Stmt} (h : s.IsOwnLine) (hr : r.Expects (s.text ++ ";".toList)) :
    Reads r (stmtIndent ++ s.text ++ ";\n".toList) (r.push s) := by
  obtain ⟨c, rest, hs, hblank⟩ := h.line.head
  have htight : Text.IsTight (s.text ++ ";".toList) :=
    ⟨⟨c, rest ++ ";".toList, by rw [hs, List.cons_append], hblank⟩, ⟨s.text, ';', rfl, rfl⟩⟩
  have hcomment : Text.startsWith (s.text ++ ";".toList) "//".toList = false := by
    rw [← h.line.notComment]
    exact Text.startsWith_append_cons (by decide) s.text []
  have hline : '\n' ∉ s.text ++ ";".toList := by
    rw [List.mem_append, not_or]
    exact ⟨h.line.line, by decide⟩
  have hform : stmtIndent ++ s.text ++ ";\n".toList =
      stmtIndent ++ (s.text ++ ";".toList) ++ ['\n'] := by simp
  rw [hform]
  refine reads_line stmtIndent_blank htight.trim_eq (Text.isSignificant_of_isTight htight hcomment)
    hline ?_ ?_
  · rw [hr.isClosedBy, beq_eq_false_iff_ne]
    exact append_ne_closingBrace s.text (by decide)
  · intro line htext
    have hlabel : labelName? (s.text ++ ";".toList) = none := by
      have hsuffix : Text.stripSuffix? ":".toList (s.text ++ ";".toList) = none :=
        stripSuffix?_eq_none_of_last (by decide) s.text
      rw [labelName?, hsuffix]
    have hswitch : beginsSwitch (s.text ++ ";".toList) = false := by
      have htable : Text.startsWith (s.text ++ ";".toList) "tableswitch".toList =
          Text.startsWith s.text "tableswitch".toList :=
        Text.startsWith_append_cons (by decide) s.text []
      have hlookup : Text.startsWith (s.text ++ ";".toList) "lookupswitch".toList =
          Text.startsWith s.text "lookupswitch".toList :=
        Text.startsWith_append_cons (by decide) s.text []
      rw [beginsSwitch, htable, hlookup]
      exact h.line.notSwitch
    rw [beginsSwitch] at hswitch
    rw [← htext] at hr
    rw [hr.step, stepStatement, htext, hlabel]
    simp only [hswitch, Bool.false_eq_true, if_false, Text.stripSuffix?_append, h.read]
    rfl

/-- **A label adds itself**; a blank line may stand in front. -/
theorem reads_label (isFirst : Bool) {name : Text} (h : isLabelName name = true)
    (hr : r.phase = .statements ∨ r.phase = .declarations) :
    Reads r (Body.stmtText isFirst (.label name)) (r.push (.label name)) := by
  have hindent : ∀ c ∈ labelIndent, c = ' ' := fun c hc => List.eq_of_mem_replicate hc
  obtain ⟨hword, hne⟩ := isLabelName_spec h
  have hchars : ∀ c ∈ name ++ ":".toList, isBlank c = false := by
    intro c hc
    obtain hc | hc := List.mem_append.1 hc
    · exact isBlank_eq_false_of_isNameChar (isNameChar_of_isWordChar (hword c hc))
    · obtain rfl : c = ':' := by simpa using hc
      rfl
  have htight : Text.IsTight (name ++ ":".toList) :=
    Text.isTight_of_forall (List.append_ne_nil_of_left_ne_nil hne _) hchars
  have hcomment : Text.startsWith (name ++ ":".toList) "//".toList = false := by
    obtain ⟨c, rest, rfl⟩ := List.exists_cons_of_ne_nil hne
    rw [List.cons_append]
    refine Text.startsWith_of_head ?_
    rintro rfl
    cases hword '/' List.mem_cons_self
  have hline : '\n' ∉ name ++ ":".toList := fun hmem => by cases hchars _ hmem
  -- The line ends in a colon, and a declaration does not.
  have hdecl : readDeclaration? (name ++ ":".toList) = none := by
    have hsuffix : Text.stripSuffix? ";".toList (name ++ ":".toList) = none :=
      stripSuffix?_eq_none_of_last (by decide) name
    rw [readDeclaration?, hsuffix]
    rfl
  have hexpects : r.Expects (name ++ ":".toList) := hr.imp_right fun hphase => ⟨hphase, hdecl⟩
  have hlabel : Reads r (labelIndent ++ (name ++ ":".toList) ++ ['\n']) (r.push (.label name)) := by
    refine reads_line hindent htight.trim_eq (Text.isSignificant_of_isTight htight hcomment)
      hline ?_ ?_
    · rw [hexpects.isClosedBy, beq_eq_false_iff_ne]
      exact append_ne_closingBrace name (by decide)
    · intro line htext
      have hname : labelName? (name ++ ":".toList) = some name := by
        rw [labelName?, Text.stripSuffix?_append]
        simp only [h, if_true]
      rw [← htext] at hexpects
      rw [hexpects.step, stepStatement, htext, hname]
  have hblank : Text.Shows (if isFirst then [] else ['\n']) [] := by
    cases isFirst
    · exact Text.shows_blank
    · exact Text.shows_nil
  have hform : Body.stmtText isFirst (.label name) =
      (if isFirst then [] else ['\n']) ++ (labelIndent ++ (name ++ ":".toList) ++ ['\n']) := by
    rw [Body.stmtText, List.append_assoc, List.append_assoc, List.append_assoc]
    rfl
  rw [hform]
  exact (reads_of_shows_nil hblank r).append hlabel

/-! ### Switches -/

/-- The lines of a switch are collected up to the brace that closes it. -/
theorem takes_switch {middle : List Text} (h : ∀ l ∈ middle, l ≠ closingBrace ++ ";".toList)
    (b : Body) (opened : Nat) (acc : List Text) {lines : List Line}
    (hlines : lines.map Line.text = middle ++ [closingBrace ++ ";".toList]) :
    Takes ⟨b, .switch opened acc⟩ lines (push ⟨b, .switch opened acc⟩
      (.verbatim (Text.join "\n".toList (acc ++ middle ++ [closingBrace])))) := by
  induction middle generalizing acc lines with
  | nil =>
    obtain ⟨line, rest, rfl, htext, hrest⟩ := List.map_eq_cons_iff.1 hlines
    rw [List.map_eq_nil_iff.1 hrest]
    refine .cons rfl ?_ (.nil _)
    rw [BodyReading.step]
    simp only [stepSwitch, htext, if_true, List.append_nil]
  | cons l middle ih =>
    rw [List.forall_mem_cons] at h
    obtain ⟨line, rest, rfl, htext, hrest⟩ := List.map_eq_cons_iff.1 hlines
    have hstep : BodyReading.step ⟨b, .switch opened acc⟩ line =
        .ok ⟨b, .switch opened (acc ++ [l])⟩ := by
      rw [BodyReading.step]
      simp only [stepSwitch, htext, if_neg h.1]
    have htail := ih h.2 (acc ++ [l]) hrest
    rw [List.append_assoc acc, List.singleton_append] at htail
    exact .cons rfl hstep htail

/-- The printer writes the lines of a block one below the other. -/
theorem shows_blockText {ls : List Text}
    (h : ∀ l ∈ ls, '\n' ∉ l ∧ Text.trim l = l ∧ isSignificant l = true) (isFirst : Bool) :
    Text.Shows (Body.blockText isFirst (ls ++ [closingBrace]))
      (ls ++ [closingBrace ++ ";".toList]) := by
  have hindent : ∀ line, ∀ c ∈ Body.blockIndent isFirst line, c = ' ' := by
    intro line c hc
    rw [Body.blockIndent] at hc
    split at hc <;> exact List.eq_of_mem_replicate hc
  induction ls generalizing isFirst with
  | nil =>
    have hform : Body.blockText isFirst [closingBrace] =
        Body.blockIndent isFirst closingBrace ++ (closingBrace ++ ";".toList) ++ ['\n'] := by
      simp [Body.blockText]
    rw [List.nil_append, hform]
    exact Text.shows_line (hindent closingBrace) (by decide) (by decide) (by decide)
  | cons l ls ih =>
    rw [List.forall_mem_cons] at h
    obtain ⟨⟨hline, htrim, hcount⟩, hrest⟩ := h
    have hform : Body.blockText isFirst (l :: ls ++ [closingBrace]) =
        Body.blockIndent isFirst l ++ l ++ ['\n'] ++
          Body.blockText false (ls ++ [closingBrace]) := by
      cases ls <;> simp [Body.blockText]
    have hindent' : ∀ line, ∀ c ∈ Body.blockIndent false line, c = ' ' := by
      intro line c hc
      rw [Body.blockIndent] at hc
      split at hc <;> exact List.eq_of_mem_replicate hc
    rw [hform]
    exact (Text.shows_line (hindent l) htrim hcount hline).append (ih hrest false hindent')

/-- The lines of a switch are those it was joined from, and it begins on the first of them. -/
theorem lines_switch {first : Text} {middle : List Text}
    (h : ∀ l ∈ first :: middle, '\n' ∉ l ∧ Text.trim l = l) :
    '\n' ∈ Text.join "\n".toList (first :: middle ++ [closingBrace]) ∧
      Text.lines (Text.join "\n".toList (first :: middle ++ [closingBrace])) =
        first :: middle ++ [closingBrace] ∧
      verbatimLine (Text.join "\n".toList (first :: middle ++ [closingBrace])) = first := by
  have hlines := Text.lines_join h (show '\n' ∉ closingBrace by decide) (by decide)
  have hfeed : '\n' ∈ Text.join "\n".toList (first :: middle ++ [closingBrace]) := by
    cases middle <;> simp [Text.join]
  refine ⟨hfeed, hlines, ?_⟩
  rw [verbatimLine, if_pos hfeed, hlines]
  rfl

/-- **A switch adds itself**, whatever its cases. -/
theorem reads_switch (isFirst : Bool) {code : Text} (h : IsSwitchBlock code)
    (hr : r.Expects (verbatimLine code)) :
    Reads r (Body.stmtText isFirst (.verbatim code)) (r.push (.verbatim code)) := by
  obtain ⟨first, middle, hcode, hswitch, hlabel, hall⟩ := h
  have htrimmed : ∀ l ∈ first :: middle, '\n' ∉ l ∧ Text.trim l = l :=
    fun l hl => ⟨(hall l hl).1, (hall l hl).2.1⟩
  obtain ⟨hfeed, hlines, hfirst⟩ := lines_switch htrimmed
  rw [← hcode] at hfeed hlines hfirst
  have hform : Body.stmtText isFirst (.verbatim code) =
      Body.blockText true (first :: middle ++ [closingBrace]) := by
    rw [Body.stmtText, if_pos (List.contains_iff_mem.2 hfeed), hlines]
  rw [hfirst] at hr
  rw [hform]
  refine ⟨_, shows_blockText (fun l hl => ⟨(hall l hl).1, (hall l hl).2.1, (hall l hl).2.2.1⟩) true,
    fun lines htexts => ?_⟩
  obtain ⟨line, rest, rfl, htext, hrest⟩ := List.map_eq_cons_iff.1 htexts
  have hopen : r.isClosedBy line.text = false := by
    rw [hr.isClosedBy, htext, beq_eq_false_iff_ne]
    rintro rfl
    cases hswitch
  have hstep : r.step line = .ok ⟨r.body, .switch line.number [first]⟩ := by
    rw [beginsSwitch] at hswitch
    rw [← htext] at hr
    rw [hr.step, stepStatement, htext, hlabel]
    simp only [hswitch, if_true]
  have hclose : ∀ l ∈ middle, l ≠ closingBrace ++ ";".toList :=
    fun l hl => (hall l (List.mem_cons_of_mem _ hl)).2.2.2
  have htail := takes_switch hclose r.body line.number [first] hrest
  rw [List.singleton_append, ← hcode] at htail
  exact .cons hopen hstep htail

end BodyReading

/-! ### Statements -/

open BodyReading

/-- The reader expects a statement, or else a declaration, for which verbatim code is not
taken. -/
def Stmt.MayFollow (s : Stmt) (r : BodyReading) : Prop :=
  r.phase = .statements ∨ r.phase = .declarations ∧
    ∀ code, s = .verbatim code → readDeclaration? (verbatimLine code) = none

/-- **What is written for a statement adds it.** -/
theorem Stmt.WellFormed.reads {s : Stmt} (h : s.WellFormed) (isFirst : Bool) {r : BodyReading}
    (hr : s.MayFollow r) : Reads r (Body.stmtText isFirst s) (r.push s) := by
  have hexpects : ∀ {line : Text}, readDeclaration? line = none → r.Expects line :=
    fun hdecl => hr.imp_right fun h => ⟨h.1, hdecl⟩
  -- Where locals may still be declared, a line must not look like a declaration.
  cases s with
  | identity name rhs =>
    refine reads_ownLine (isOwnLine_identity h.1 h.2) (hexpects ?_)
    have hform : (identity name rhs).text = name ++ ' ' :: ':' :: ("= ".toList ++ rhs.text) :=
      List.append_assoc name " := ".toList rhs.text
    rw [hform]
    exact readDeclaration?_eq_none_of_char rfl rfl (by decide) name _
  | assign lhs rhs =>
    refine reads_ownLine (isOwnLine_assign h.1 h.2) (hexpects ?_)
    have hform : (assign lhs rhs).text = lhs.text ++ ' ' :: '=' :: (" ".toList ++ rhs.text) :=
      List.append_assoc lhs.text " = ".toList rhs.text
    rw [hform]
    exact readDeclaration?_eq_none_of_char rfl rfl (by decide) lhs.text _
  | invoke e =>
    refine reads_ownLine (isOwnLine_invoke h) (hexpects ?_)
    have hform : (invoke e).text = e.text := rfl
    rw [hform, e.text_eq]
    exact readDeclaration?_eq_none_of_word (keyword_mem_stmtKeywords e.kind) _
  | ret value =>
    refine reads_ownLine (isOwnLine_ret h) (hexpects ?_)
    cases value with
    | none => exact readDeclaration?_eq_none_of_not_mem (s := "return".toList) (by decide)
    | some v => exact readDeclaration?_eq_none_of_word (w := "return".toList) (by decide) v.text
  | label name =>
    exact reads_label isFirst h (hr.imp_right And.left)
  | verbatim code =>
    have hverbatim : r.Expects (verbatimLine code) := hr.imp_right fun h => ⟨h.1, h.2 code rfl⟩
    obtain h | h := h
    · have hfeed : '\n' ∉ code := h.line
      have hform : Body.stmtText isFirst (.verbatim code) =
          stmtIndent ++ (verbatim code).text ++ ";\n".toList := by
        rw [Body.stmtText, if_neg (by simpa using hfeed)]
        rfl
      rw [verbatimLine, if_neg hfeed] at hverbatim
      rw [hform]
      exact reads_ownLine (isOwnLine_verbatim h) hverbatim
    · exact reads_switch isFirst h hverbatim

/-- The reading with further statements. -/
def BodyReading.pushAll (r : BodyReading) (ss : List Stmt) : BodyReading :=
  ss.foldl push r

/-- Statements read one after the other stand at the end, under the next handles. -/
theorem BodyReading.body_pushAll (r : BodyReading) (ss : List Stmt) :
    (r.pushAll ss).body = { r.body with
      stmts := r.body.stmts ++ Body.numbered r.body.nextId ss
      nextId := r.body.nextId + ss.length } := by
  induction ss generalizing r with
  | nil => simp [pushAll, Body.numbered]
  | cons s ss ih =>
    have hpush : r.pushAll (s :: ss) = (r.push s).pushAll ss := rfl
    rw [hpush, ih]
    simp only [push, Body.push, Body.numbered, List.append_assoc, List.singleton_append,
      List.length_cons]
    congr 1
    omega

/-- A body that can be closed still can after more statements. -/
theorem BodyReading.isClosedBy_pushAll {r : BodyReading} (ss : List Stmt)
    (hr : r.isClosedBy closingBrace = true) : (r.pushAll ss).isClosedBy closingBrace = true := by
  induction ss generalizing r with
  | nil => exact hr
  | cons s ss ih => exact ih (r := r.push s) rfl

/-- **What is written for statements adds them in order.** -/
theorem reads_stmtsText {ss : List Stmt} (h : ∀ s ∈ ss, s.WellFormed) {r : BodyReading}
    (hr : ∀ s, ss.head? = some s → s.MayFollow r) :
    Reads r (Body.stmtsText ss) (r.pushAll ss) := by
  have hrest : ∀ {ss : List Stmt}, (∀ s ∈ ss, s.WellFormed) → ∀ {r : BodyReading},
      r.phase = .statements → Reads r (ss.flatMap (Body.stmtText false)) (r.pushAll ss) := by
    intro ss h
    induction ss with
    | nil => exact fun _ => reads_of_shows_nil Text.shows_nil _
    | cons s ss ih =>
      rw [List.forall_mem_cons] at h
      intro r hr
      rw [List.flatMap_cons]
      exact (h.1.reads false (.inl hr)).append (ih h.2 rfl)
  cases ss with
  | nil => exact reads_of_shows_nil Text.shows_nil r
  | cons s ss =>
    rw [List.forall_mem_cons] at h
    exact (h.1.reads true (hr s rfl)).append (hrest h.2 rfl)

/-! ### Declarations -/

/-- Locals under new names can all be declared. -/
theorem Body.declareAll_eq_ok {b : Body} {ls : List Local}
    (h : (b.names ++ ls.map Local.name).Nodup) : declareAll ls b = .ok (b.withLocals ls) := by
  induction ls generalizing b with
  | nil => rw [declareAll, withLocals_nil]
  | cons l ls ih =>
    have hfree : b.declares l.name = false := by
      rw [declares_eq_false_iff]
      intro hmem
      exact (List.nodup_append.1 h).2.2 _ hmem _ (by simp) rfl
    have hrest : ((b.withLocals [l]).names ++ ls.map Local.name).Nodup := by
      rw [names_withLocals]
      simpa using h
    rw [declareAll, hfree, if_neg Bool.false_ne_true]
    have := ih hrest
    rwa [← withLocals_append, List.singleton_append] at this

/-- A group that can be declared. -/
structure IsDeclaration (g : Ty × List Text) : Prop where
  ty : g.1.WellFormed
  inhabited : g.2 ≠ []
  names : ∀ name ∈ g.2, isLocalName name = true

/-- **What is written for a group declares it.** -/
theorem reads_groupLine {g : Ty × List Text} (h : IsDeclaration g) {b : Body}
    (hnodup : (b.names ++ g.2).Nodup) :
    Reads ⟨b, .declarations⟩ (Body.groupLine g)
      ⟨b.withLocals (Body.declared [g]), .declarations⟩ := by
  obtain ⟨ty, names⟩ := g
  have hty : ty.WellFormed := h.ty
  have hform : Body.groupLine (ty, names) = stmtIndent ++ declaration (ty, names) ++ ['\n'] := by
    simp [Body.groupLine, declaration]
  have hend : Text.IsTight [';'] := Text.isTight_of_forall (by decide) (by decide)
  have htight : Text.IsTight (declaration (ty, names)) :=
    hty.isTight.append (' ' :: Text.join ", ".toList names) hend
  have hcomment : Text.startsWith (declaration (ty, names)) "//".toList = false := by
    obtain ⟨c, rest, hc⟩ := List.exists_cons_of_ne_nil hty.text_ne_nil
    have hslash : c ≠ '/' := by
      rintro rfl
      exact hty.not_mem (d := '/') rfl (hc ▸ List.mem_cons_self)
    have hcons : declaration (ty, names) =
        c :: (rest ++ ' ' :: Text.join ", ".toList names ++ ";".toList) := by
      simp [declaration, hc]
    rw [hcons]
    exact Text.startsWith_of_head hslash
  have hline : '\n' ∉ declaration (ty, names) := by
    have hjoin : '\n' ∉ Text.join ", ".toList names := by
      refine Text.not_mem_join (by decide) fun name hname hmem => ?_
      cases (isLocalName_spec (h.names name hname)).1 _ hmem
    rw [declaration]
    simp only [List.mem_append, List.mem_cons, not_or]
    exact ⟨⟨hty.not_mem rfl, by decide, hjoin⟩, by decide⟩
  have hread := readDeclaration?_declaration hty h.inhabited h.names
  have hdeclare : Body.declareAll (names.map fun name => { name, ty }) b =
      .ok (b.withLocals (Body.declared [(ty, names)])) := by
    have hnames : (names.map fun name => ({ name, ty } : Local)).map Local.name = names := by
      rw [List.map_map]
      exact List.map_id names
    have hdistinct : (b.names ++ (names.map fun name => ({ name, ty } : Local)).map
        Local.name).Nodup := by
      rw [hnames]
      exact hnodup
    have hone : Body.declared [(ty, names)] = names.map fun name => { name, ty } :=
      List.append_nil _
    rw [Body.declareAll_eq_ok hdistinct, hone]
  rw [hform]
  refine reads_line stmtIndent_blank htight.trim_eq (Text.isSignificant_of_isTight htight hcomment)
    hline ?_ ?_
  · change (declaration (ty, names) == closingBrace) = false
    rw [beq_eq_false_iff_ne]
    exact append_ne_closingBrace _ (by decide)
  · intro line htext
    rw [BodyReading.step]
    simp only [htext, hread, hdeclare]
    rfl

/-- **What is written for groups declares them in order.** -/
theorem reads_groupLines {gs : List (Ty × List Text)} (h : ∀ g ∈ gs, IsDeclaration g) {b : Body}
    (hnodup : (b.names ++ (Body.declared gs).map Local.name).Nodup) :
    Reads ⟨b, .declarations⟩ (gs.flatMap Body.groupLine)
      ⟨b.withLocals (Body.declared gs), .declarations⟩ := by
  induction gs generalizing b with
  | nil =>
    have hnil : Body.declared [] = [] := rfl
    rw [hnil, Body.withLocals_nil]
    exact reads_of_shows_nil Text.shows_nil _
  | cons g gs ih =>
    rw [List.forall_mem_cons] at h
    have hone : Body.declared (g :: gs) = Body.declared [g] ++ Body.declared gs :=
      Body.declared_append [g] gs
    have hnames : (Body.declared [g]).map Local.name = g.2 := by
      rw [Body.declared_cons, List.map_append, List.map_map]
      exact (List.append_nil _).trans (List.map_id g.2)
    rw [hone, List.map_append, hnames, ← List.append_assoc] at hnodup
    have hfirst : (b.names ++ g.2).Nodup := (List.nodup_append.1 hnodup).1
    rw [List.flatMap_cons, hone, Body.withLocals_append]
    refine (reads_groupLine h.1 hfirst).append (ih h.2 ?_)
    rwa [Body.names_withLocals, hnames]

/-! ### Bodies -/

namespace Body

/-- The body with its locals in the order in which they are written and its statements with
the handles that a reader gives them. -/
def normalized (b : Body) : Body where
  method := b.method
  locals := declared (groups b.locals)
  stmts := numbered 0 b.statements
  nextId := b.stmts.length

/-- **Nothing but order and handles** distinguishes the two. -/
theorem normalized_spec (b : Body) :
    b.normalized.method = b.method ∧ b.normalized.locals.Perm b.locals ∧
      b.normalized.statements = b.statements :=
  ⟨rfl, perm_declared_groups b.locals, map_snd_numbered 0 b.statements⟩

/-- **Both are written alike.** -/
theorem text_normalized (b : Body) : b.normalized.text = b.text := by
  have hlocals : b.normalized.locals.isEmpty = b.locals.isEmpty := by
    rw [Bool.eq_iff_iff, List.isEmpty_iff_length_eq_zero, List.isEmpty_iff_length_eq_zero,
      (perm_declared_groups b.locals).length_eq.symm]
    rfl
  have hstmts : b.normalized.stmts.isEmpty = b.stmts.isEmpty := by
    rw [Bool.eq_iff_iff, List.isEmpty_iff_length_eq_zero, List.isEmpty_iff_length_eq_zero]
    simp [normalized, statements]
  have hgroups : groups b.normalized.locals = groups b.locals := groups_declared_groups b.locals
  have hstatements : b.normalized.statements = b.statements := map_snd_numbered 0 b.statements
  rw [text, text, hlocals, hstmts, hgroups, hstatements]

/-- What is written between the braces of a body. -/
def inner (b : Body) : Text :=
  (groups b.locals).flatMap groupLine ++
    (if b.locals.isEmpty || b.stmts.isEmpty then [] else ['\n']) ++ stmtsText b.statements

/-- The written body is what stands inside, between its two braces. -/
theorem text_eq (b : Body) : b.text =
    memberIndent ++ openingBrace ++ ['\n'] ++ b.inner ++
      (memberIndent ++ closingBrace ++ ['\n']) := by
  simp [text, inner]

/-- Every group of locals of a well-formed body can be read as a declaration. -/
theorem WellFormed.isDeclaration {b : Body} (h : b.WellFormed) :
    ∀ g ∈ groups b.locals, IsDeclaration g := by
  intro g hg
  have hlocal : ∀ name ∈ g.2, ({ name, ty := g.1 } : Local) ∈ b.locals := by
    intro name hname
    refine (perm_declared_groups b.locals).mem_iff.1 ?_
    exact List.mem_flatMap.2 ⟨g, hg, List.mem_map_of_mem hname⟩
  have hne := (grouped_groups b.locals).inhabited g hg
  obtain ⟨name, hname⟩ := List.exists_mem_of_ne_nil _ hne
  exact ⟨(h.locals _ (hlocal name hname)).2, hne, fun n hn => (h.locals _ (hlocal n hn)).1⟩

/-- **What is written between the braces of a body gives the body back**, up to the order of
its locals and the handles of its statements. -/
theorem WellFormed.reads {b : Body} (h : b.WellFormed) :
    ∃ r, Reads (.start b.method) b.inner r ∧ r.body = b.normalized ∧
      r.isClosedBy closingBrace = true := by
  let declaredBody := (empty b.method).withLocals (declared (groups b.locals))
  let r : BodyReading := ⟨declaredBody, .declarations⟩
  have hnodup : ((empty b.method).names ++ (declared (groups b.locals)).map Local.name).Nodup := by
    have hperm := (perm_declared_groups b.locals).map Local.name
    exact hperm.nodup_iff.2 h.distinct
  have hdeclared : Reads (.start b.method) ((groups b.locals).flatMap groupLine) r :=
    reads_groupLines h.isDeclaration hnodup
  have hblank : Text.Shows (if b.locals.isEmpty || b.stmts.isEmpty then [] else ['\n']) [] := by
    split
    · exact Text.shows_nil
    · exact Text.shows_blank
  have hfollow : ∀ s, b.statements.head? = some s → s.MayFollow r := by
    rintro s hs
    refine .inr ⟨rfl, ?_⟩
    rintro code rfl
    exact h.first code hs
  refine ⟨r.pushAll b.statements, ?_, ?_, isClosedBy_pushAll _ rfl⟩
  · exact (hdeclared.append (reads_of_shows_nil hblank r)).append (reads_stmtsText h.stmts hfollow)
  · rw [body_pushAll]
    simp [r, declaredBody, normalized, withLocals, empty, statements]

end Body

end Weaver
