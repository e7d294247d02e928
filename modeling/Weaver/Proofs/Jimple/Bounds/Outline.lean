import Weaver.Proofs.Jimple.Bounds.Reader
import Weaver.Proofs.Jimple.Ensured

/-!
# Outlines

What a reader takes each line of a text for. The lines of a body are its declarations and, behind
them, its labels, its statements and its switches; the lines of a class are its header, two braces
and, between them, its fields and methods with their bodies. An outline lists these parts, each with
its lines. Put together again, the lines of the parts are the lines of the text: **none is left out,
none is taken twice**, and what was read is what the parts say.

## Main definitions

* `CodePart`, `BodyOutline`, `MemberPart`, `ClassOutline`: parts with their lines.
* `BodyOutline.Leads`: the parts lead from one body to another.
* `MemberPart.IsRead`, `Class.OutlinedBy`: the parts are what the reader takes their lines for.

## Main results

* `ByteReader.outline_of_bodyLines?`, `ByteReader.outline_of_members?`: what is taken from the
  cursor has an outline.
* `Body.exists_outline`, `Class.exists_outline`: **whatever is read** has one.
-/

namespace Weaver

open ByteReader

/-! ### Parts of bodies -/

/-- One or more lines of a body that hold code. -/
inductive CodePart where
  | label (line : Line) (name : Text)
  | plain (line : Line) (s : Stmt)
  | switch (opening : Line) (inner : List Line) (closing : Line)

namespace CodePart

/-- The lines of the part. -/
def lines : CodePart → List Line
  | label line _ | plain line _ => [line]
  | switch opening inner closing => opening :: inner ++ [closing]

/-- The statement that the part stands for. -/
def stmt : CodePart → Stmt
  | label _ name => .label name
  | plain _ s => s
  | switch opening inner _ =>
    .verbatim (Text.join "\n".toList ((opening :: inner).map Line.text ++ [closingBrace]))

/-- The lines are what the part says. -/
def IsRead : CodePart → Prop
  | label line name => labelName? line.text = some name
  | plain line s =>
    labelName? line.text = none ∧ opensSwitch line.text = false ∧
      ∃ code, line.text = code ++ ";".toList ∧ Stmt.read code = .ok s
  | switch opening inner closing =>
    labelName? opening.text = none ∧ opensSwitch opening.text = true ∧
      (∀ line ∈ inner, line.text ≠ closingBrace ++ ";".toList) ∧
      closing.text = closingBrace ++ ";".toList

end CodePart

namespace ByteReader

/-- What a line is that declares no locals. -/
theorem lineStmt_cases {line : Text} {r : Option Stmt} (h : lineStmt line = .ok r) :
    (∃ name, labelName? line = some name ∧ r = some (.label name)) ∨
    (labelName? line = none ∧ opensSwitch line = true ∧ r = none) ∨
    (labelName? line = none ∧ opensSwitch line = false ∧
      ∃ code s, line = code ++ ";".toList ∧ Stmt.read code = .ok s ∧ r = some s) := by
  rw [lineStmt] at h
  cases hlabel : labelName? line with
  | some name =>
    rw [hlabel] at h
    exact .inl ⟨name, rfl, (Except.ok.inj h).symm⟩
  | none =>
    rw [hlabel] at h
    cases hswitch : opensSwitch line with
    | true =>
      rw [hswitch] at h
      exact .inr (.inl ⟨rfl, rfl, (Except.ok.inj h).symm⟩)
    | false =>
      rw [hswitch] at h
      cases hcode : Text.stripSuffix? ";".toList line with
      | none =>
        rw [hcode] at h
        cases h
      | some code =>
        rw [hcode] at h
        cases hs : Stmt.read code with
        | error why =>
          simp only [hs] at h
          cases h
        | ok s =>
          simp only [hs] at h
          exact .inr (.inr ⟨rfl, rfl, code, s, Text.stripSuffix?_eq_some_iff.1 hcode, hs,
            (Except.ok.inj h).symm⟩)

/-- A line that is read on its own. -/
theorem part_of_lineStmt {line : Line} {s : Stmt} (h : lineStmt line.text = .ok (some s)) :
    ∃ part : CodePart, part.IsRead ∧ part.lines = [line] ∧ part.stmt = s := by
  obtain ⟨name, hlabel, hs⟩ | ⟨-, -, hs⟩ | ⟨hlabel, hswitch, code, s', hcode, hread, hs⟩ :=
    lineStmt_cases h
  · exact ⟨.label line name, hlabel, rfl, (Option.some.inj hs).symm⟩
  · cases hs
  · obtain rfl := Option.some.inj hs
    exact ⟨.plain line s, ⟨hlabel, hswitch, code, hcode, hread⟩, rfl, rfl⟩

/-- The lines of a switch end with the first closing brace. -/
theorem lines_of_switch {opened : Nat} {taken : List Text} {lines behind : List Line} {code : Text}
    (h : switch opened taken lines = .ok (code, behind)) :
    ∃ inner closing, lines = inner ++ closing :: behind ∧
      (∀ line ∈ inner, line.text ≠ closingBrace ++ ";".toList) ∧
      closing.text = closingBrace ++ ";".toList ∧
      code = Text.join "\n".toList (taken ++ inner.map Line.text ++ [closingBrace]) := by
  induction lines generalizing taken with
  | nil => cases h
  | cons line rest ih =>
    rw [switch] at h
    split at h
    next hclose =>
      obtain ⟨rfl, rfl⟩ := Prod.mk.inj (Except.ok.inj h)
      exact ⟨[], line, rfl, by simp, hclose, by simp⟩
    next hopen =>
      obtain ⟨inner, closing, rfl, hinner, hclosing, rfl⟩ := ih h
      refine ⟨line :: inner, closing, rfl, ?_, hclosing, by simp⟩
      rw [List.forall_mem_cons]
      exact ⟨hopen, hinner⟩

/-- **A switch** is one part. -/
theorem part_of_switch {line : Line} {rest behind : List Line} {code : Text}
    (h : lineStmt line.text = .ok none)
    (hswitch : switch line.number [line.text] rest = .ok (code, behind)) :
    ∃ part : CodePart, part.IsRead ∧ line :: rest = part.lines ++ behind ∧
      part.lines.head? = some line ∧ part.stmt = .verbatim code := by
  obtain ⟨hlabel, hopens⟩ : labelName? line.text = none ∧ opensSwitch line.text = true := by
    obtain ⟨_, -, hs⟩ | ⟨hlabel, hopens, -⟩ | ⟨-, -, _, _, -, -, hs⟩ := lineStmt_cases h
    · cases hs
    · exact ⟨hlabel, hopens⟩
    · cases hs
  obtain ⟨inner, closing, rfl, hinner, hclosing, rfl⟩ := lines_of_switch hswitch
  refine ⟨.switch line inner closing, ⟨hlabel, hopens, hinner, hclosing⟩, ?_, rfl, rfl⟩
  simp [CodePart.lines]

end ByteReader

/-! ### Outlines of bodies -/

/-- Lines with the locals that they declare, and the code behind them. -/
structure BodyOutline where
  declarations : List (Line × List Local)
  code : List CodePart

namespace BodyOutline

/-- The lines of all parts. -/
def lines (o : BodyOutline) : List Line :=
  o.declarations.map Prod.fst ++ o.code.flatMap CodePart.lines

/-- The locals that are declared. -/
def locals (o : BodyOutline) : List Local :=
  o.declarations.flatMap Prod.snd

/-- The statements of the code. -/
def statements (o : BodyOutline) : List Stmt :=
  o.code.map CodePart.stmt

/-- The lines are what the outline says, and lead from the body `b` to the body `b'`. The first line
of code is where declarations end. -/
structure Leads (o : BodyOutline) (declaring : Bool) (b b' : Body) : Prop where
  declarations : ∀ d ∈ o.declarations, declared? declaring d.1.text = some d.2
  code : ∀ part ∈ o.code, part.IsRead
  boundary : ∀ line ∈ (o.code.flatMap CodePart.lines).head?, declared? declaring line.text = none
  method : b'.method = b.method
  locals : b'.locals = b.locals ++ o.locals
  statements : b'.statements = b.statements ++ o.statements

variable {o : BodyOutline} {declaring : Bool} {b b' : Body}

/-- An outline without parts leaves the body as it is. -/
theorem Leads.nil (declaring : Bool) (b : Body) : Leads ⟨[], []⟩ declaring b b where
  declarations _ hd := absurd hd List.not_mem_nil
  code _ hpart := absurd hpart List.not_mem_nil
  boundary _ hline := absurd hline (Option.not_mem_none _)
  method := rfl
  locals := (List.append_nil _).symm
  statements := (List.append_nil _).symm

/-- One more declaration in front. -/
theorem Leads.declare {line : Line} {ls : List Local} (h : o.Leads declaring (b.withLocals ls) b')
    (hline : declared? declaring line.text = some ls) :
    Leads ⟨(line, ls) :: o.declarations, o.code⟩ declaring b b' where
  declarations := by
    rw [List.forall_mem_cons]
    exact ⟨hline, h.declarations⟩
  code := h.code
  boundary := h.boundary
  method := h.method
  locals := h.locals.trans (List.append_assoc _ _ _)
  statements := h.statements

/-- Where no line may declare locals, none does. -/
theorem Leads.declarations_eq_nil (h : o.Leads false b b') : o.declarations = [] := by
  rw [List.eq_nil_iff_forall_not_mem]
  intro d hd
  cases h.declarations d hd

/-- One more part of the code in front, which ends the declarations. -/
theorem Leads.push {part : CodePart} {line : Line} (h : o.Leads false (b.push part.stmt).2 b')
    (hpart : part.IsRead) (hhead : part.lines.head? = some line)
    (hline : declared? declaring line.text = none) :
    Leads ⟨[], part :: o.code⟩ declaring b b' where
  declarations _ hd := absurd hd List.not_mem_nil
  code := by
    rw [List.forall_mem_cons]
    exact ⟨hpart, h.code⟩
  boundary first hfirst := by
    rw [List.flatMap_cons, List.head?_append, hhead] at hfirst
    exact Option.some.inj hfirst ▸ hline
  method := h.method
  locals := by
    rw [h.locals, BodyOutline.locals, h.declarations_eq_nil]
    rfl
  statements := by
    rw [h.statements, Body.statements, Body.push, List.map_append]
    exact List.append_assoc _ _ _

/-- The lines with one more part of the code in front. -/
theorem Leads.lines_push (h : o.Leads false b b') (part : CodePart) :
    BodyOutline.lines ⟨[], part :: o.code⟩ = part.lines ++ o.lines := by
  rw [BodyOutline.lines, BodyOutline.lines, h.declarations_eq_nil]
  rfl

end BodyOutline

/-- **A body that is taken from the cursor** has an outline. Behind its lines stands the closing
brace that it needs, or nothing at all. -/
theorem ByteReader.outline_of_bodyLines? {braced declaring : Bool} {last : Nat} {b b' : Body}
    {lines behind : List Line}
    (h : bodyLines? braced last declaring b lines = some (.ok (b', behind))) :
    ∃ (o : BodyOutline) (ending : List Line), o.Leads declaring b b' ∧
      lines = o.lines ++ ending ++ behind ∧
      (braced = true → ∃ closing, ending = [closing] ∧ closing.text = closingBrace) ∧
      (braced = false → ending = [] ∧ behind = []) := by
  fun_induction bodyLines? braced last declaring b lines with
  | case1 declaring b =>
    split at h
    · cases h
    next hbraced =>
      obtain ⟨rfl, rfl⟩ := Prod.mk.inj (Except.ok.inj (Option.some.inj h))
      exact ⟨⟨[], []⟩, [], .nil declaring b, rfl, fun hb => absurd hb hbraced,
        fun _ => ⟨rfl, rfl⟩⟩
  | case2 declaring b line rest hclose =>
    split at h
    next hbraced =>
      obtain ⟨rfl, rfl⟩ := Prod.mk.inj (Except.ok.inj (Option.some.inj h))
      exact ⟨⟨[], []⟩, [line], .nil declaring b, rfl, fun _ => ⟨line, rfl, hclose⟩,
        fun hb => absurd hbraced (hb ▸ Bool.false_ne_true)⟩
    · cases h
  | case3 | case5 | case6 | case8 => cases h
  | case4 declaring b line rest hopen ls hls b₁ hb₁ ih =>
    obtain ⟨o, ending, hleads, rfl, hbraced, hopen⟩ := ih h
    obtain rfl := Body.eq_withLocals_of_declareAll hb₁
    exact ⟨_, ending, hleads.declare hls, rfl, hbraced, hopen⟩
  | case7 declaring b line rest hopen hls s hs ih =>
    rw [lineStmt?_eq, Option.some.injEq] at hs
    obtain ⟨part, hpart, hlines, rfl⟩ := part_of_lineStmt hs
    obtain ⟨o, ending, hleads, rfl, hbraced, hopen⟩ := ih h
    refine ⟨_, ending, hleads.push hpart (by rw [hlines]; rfl) hls, ?_, hbraced, hopen⟩
    rw [hleads.lines_push, hlines]
    rfl
  | case9 declaring b line rest hopen hls hs code behind₁ hcode ih =>
    rw [lineStmt?_eq, Option.some.injEq] at hs
    obtain ⟨part, hpart, hlines, hhead, hstmt⟩ := part_of_switch hs hcode
    rw [← hstmt] at ih h
    obtain ⟨o, ending, hleads, rfl, hbraced, hopen⟩ := ih h
    refine ⟨_, ending, hleads.push hpart hhead hls, ?_, hbraced, hopen⟩
    rw [hleads.lines_push, hlines]
    simp only [List.append_assoc]

/-! ### Parts of classes -/

/-- One or more lines of a class that hold a member. -/
inductive MemberPart where
  | field (line : Line) (f : Field)
  /-- A method that has no body. -/
  | bodiless (line : Line) (m : Method)
  | method (header opening : Line) (m : Method) (code : BodyOutline) (b : Body) (closing : Line)

namespace MemberPart

/-- The lines of the part. -/
def lines : MemberPart → List Line
  | field line _ | bodiless line _ => [line]
  | method header opening _ code _ closing => header :: opening :: code.lines ++ [closing]

/-- The field that the part declares. -/
def field? : MemberPart → Option Field
  | field _ f => some f
  | bodiless _ _ | method _ _ _ _ _ _ => none

/-- The method that the part declares. -/
def method? : MemberPart → Option Method
  | field _ _ => none
  | bodiless _ m => some m
  | method _ _ m _ b _ => some { m with body := some b }

/-- The lines are what the part says, in a class of that name. -/
def IsRead (cls : ClassName) : MemberPart → Prop
  | field line f => '(' ∉ line.text ∧ Field.read line.text = .ok f
  | bodiless line m => '(' ∈ line.text ∧ Method.readHeader line.text = .ok (m, false)
  | method header opening m code b closing =>
    '(' ∈ header.text ∧ Method.readHeader header.text = .ok (m, true) ∧
      opening.text = openingBrace ∧ code.Leads true (.empty { cls, sig := m.sig }) b ∧
      closing.text = closingBrace

end MemberPart

namespace Class

/-- The class with the fields and methods of more parts. -/
def withMembers (c : Class) (members : List MemberPart) : Class :=
  { c with
    fields := c.fields ++ members.filterMap MemberPart.field?
    methods := c.methods ++ members.filterMap MemberPart.method? }

variable (c : Class) (members : List MemberPart)

theorem withMembers_nil : c.withMembers [] = c := by
  simp [withMembers]

/-- A part that declares a field. -/
theorem withMembers_field {part : MemberPart} {f : Field} (hfield : part.field? = some f)
    (hmethod : part.method? = none) :
    c.withMembers (part :: members) =
      { c with fields := c.fields ++ [f] }.withMembers members := by
  simp [withMembers, hfield, hmethod]

/-- A part that declares a method. -/
theorem withMembers_method {part : MemberPart} {m : Method} (hfield : part.field? = none)
    (hmethod : part.method? = some m) :
    c.withMembers (part :: members) =
      { c with methods := c.methods ++ [m] }.withMembers members := by
  simp [withMembers, hfield, hmethod]

end Class

namespace ByteReader

/-- What is taken as an opening brace is a line with nothing else on it. -/
theorem openBrace_eq_ok {last : Nat} {lines behind : List Line}
    (h : openBrace last lines = .ok behind) :
    ∃ opening, lines = opening :: behind ∧ opening.text = openingBrace := by
  cases lines with
  | nil => cases h
  | cons line rest =>
    rw [openBrace] at h
    split at h
    next hopen => exact ⟨line, congrArg (line :: ·) (Except.ok.inj h), hopen⟩
    · cases h

/-- A body in braces, up to the line behind it. -/
theorem outline_of_braced {last : Nat} {b b' : Body} {lines behind : List Line}
    (h : bodyLines? true last true b lines = some (.ok (b', behind))) :
    ∃ (o : BodyOutline) (closing : Line), o.Leads true b b' ∧
      lines = o.lines ++ closing :: behind ∧ closing.text = closingBrace := by
  obtain ⟨o, ending, hleads, rfl, hbraced, -⟩ := outline_of_bodyLines? h
  obtain ⟨closing, rfl, hclosing⟩ := hbraced rfl
  exact ⟨o, closing, hleads, by simp, hclosing⟩

/-- **The members that are taken from the cursor** have an outline. -/
theorem outline_of_members? {last : Nat} {c c' : Class} {lines behind : List Line}
    (h : members? last c lines = some (.ok (c', behind))) :
    ∃ (members : List MemberPart) (closing : Line), (∀ part ∈ members, part.IsRead c.name) ∧
      lines = members.flatMap MemberPart.lines ++ closing :: behind ∧
      closing.text = closingBrace ∧ c' = c.withMembers members := by
  -- Only four ways out succeed: the closing brace, and the three kinds of members.
  fun_induction members? last c lines with
  | case1 | case3 | case4 | case6 | case7 | case8 | case10 | case11 => cases h
  | case2 c line rest hclose =>
    obtain ⟨rfl, rfl⟩ := Prod.mk.inj (Except.ok.inj (Option.some.inj h))
    exact ⟨[], line, by simp, rfl, hclose, c.withMembers_nil.symm⟩
  | case5 c line rest hmember hmethod m hm ih =>
    rw [methodHeader?_eq, Option.some.injEq] at hm
    obtain ⟨members, closing, hread, rfl, hclosing, rfl⟩ := ih h
    refine ⟨.bodiless line m :: members, closing, ?_, rfl, hclosing,
      (c.withMembers_method members rfl rfl).symm⟩
    rw [List.forall_mem_cons]
    exact ⟨⟨List.contains_iff_mem.1 hmethod, hm⟩, hread⟩
  | case9 c line rest hmember hmethod m hm inner hinner b behind₁ hbody ih =>
    rw [methodHeader?_eq, Option.some.injEq] at hm
    obtain ⟨opening, rfl, hopening⟩ := openBrace_eq_ok hinner
    obtain ⟨code, last, hleads, rfl, hlast⟩ := outline_of_braced hbody
    obtain ⟨members, closing, hread, rfl, hclosing, rfl⟩ := ih h
    refine ⟨.method line opening m code b last :: members, closing, ?_, ?_, hclosing,
      (c.withMembers_method members rfl rfl).symm⟩
    · rw [List.forall_mem_cons]
      exact ⟨⟨List.contains_iff_mem.1 hmethod, hm, hopening, hleads, hlast⟩, hread⟩
    · simp [MemberPart.lines]
  | case12 c line rest hmember hfield f hf ih =>
    rw [field?_eq, Option.some.injEq] at hf
    obtain ⟨members, closing, hread, rfl, hclosing, rfl⟩ := ih h
    refine ⟨.field line f :: members, closing, ?_, rfl, hclosing,
      (c.withMembers_field members rfl rfl).symm⟩
    rw [List.forall_mem_cons]
    exact ⟨⟨fun hmem => hfield (List.contains_iff_mem.2 hmem), hf⟩, hread⟩

end ByteReader

/-! ### Whole texts -/

/-- A header, two braces and the members between them. -/
structure ClassOutline where
  header : Line
  opening : Line
  members : List MemberPart
  closing : Line

/-- The lines of all parts. -/
def ClassOutline.lines (o : ClassOutline) : List Line :=
  o.header :: o.opening :: o.members.flatMap MemberPart.lines ++ [o.closing]

/-- The lines are what the outline says, and the class is what they say. -/
structure Class.OutlinedBy (c : Class) (o : ClassOutline) : Prop where
  header : ∃ bare, Class.readHeader o.header.text = .ok bare ∧ c = bare.withMembers o.members
  opening : o.opening.text = openingBrace
  members : ∀ part ∈ o.members, part.IsRead c.name
  closing : o.closing.text = closingBrace
  fields : c.fields = o.members.filterMap MemberPart.field?
  methods : c.methods = o.members.filterMap MemberPart.method?

/-- The lines are those of the outline, perhaps with braces around them. -/
inductive BodyOutline.Spans (o : BodyOutline) : List Line → Prop where
  | bare : Spans o o.lines
  | braced {opening closing : Line} (hopening : opening.text = openingBrace)
      (hclosing : closing.text = closingBrace) : Spans o (opening :: o.lines ++ [closing])

namespace ByteReader

/-- The next line is an opening brace, or nothing is taken. -/
theorem optionalBrace_cases (lines : List Line) :
    optionalBrace lines = (false, lines) ∨
      ∃ opening rest, lines = opening :: rest ∧ opening.text = openingBrace ∧
        optionalBrace lines = (true, rest) := by
  cases lines with
  | nil => exact .inl rfl
  | cons line rest =>
    rw [optionalBrace]
    by_cases hopening : line.text = openingBrace
    · rw [if_pos hopening]
      exact .inr ⟨line, rest, rfl, hopening, rfl⟩
    · rw [if_neg hopening]
      exact .inl rfl

/-- **How a body is read**: to its closing brace behind an opening brace, or to the end. -/
theorem body?_cases {method s : Text} {m : MethodRef} {r : Except Fault Body}
    (hm : MethodRef.read method = .ok m) (h : body? method s = some r) :
    toEnd? .afterBody (bodyLines? false (lastNumber (significantLines s)) true (.empty m)
      (significantLines s)) = some r ∨
    ∃ opening rest, significantLines s = opening :: rest ∧ opening.text = openingBrace ∧
      toEnd? .afterBody
        (bodyLines? true (lastNumber (significantLines s)) true (.empty m) rest) = some r := by
  rw [body?, methodRef?_eq, hm] at h
  dsimp only at h
  obtain hbare | ⟨opening, rest, hlines, hopening, hbraced⟩ :=
    optionalBrace_cases (significantLines s)
  · rw [hbare] at h
    exact .inl h
  · rw [hbraced] at h
    exact .inr ⟨opening, rest, hlines, hopening, h⟩

/-- **How a class is read**: its header, an opening brace, and members to its closing brace. -/
theorem class?_cases {s : Text} {r : Except Fault Class} {header : Line} {rest : List Line}
    (hlines : significantLines s = header :: rest) (h : class? s = some r) :
    (∃ why, r = .error (.read header.number why)) ∨
    (∃ fault, openBrace (lastNumber (significantLines s)) rest = .error fault ∧
      r = .error fault) ∨
    ∃ c opening inner, Class.readHeader header.text = .ok c ∧ rest = opening :: inner ∧
      opening.text = openingBrace ∧
      toEnd? .afterClass (members? (lastNumber (significantLines s)) c inner) = some r := by
  rw [class?, hlines] at h
  dsimp only at h
  rw [classHeader?_eq, ← hlines] at h
  cases hheader : Class.readHeader header.text with
  | error why =>
    rw [hheader] at h
    exact .inl ⟨why, (Option.some.inj h).symm⟩
  | ok c =>
    rw [hheader] at h
    dsimp only at h
    cases hopen : openBrace (lastNumber (significantLines s)) rest with
    | error fault =>
      rw [hopen] at h
      exact .inr (.inl ⟨fault, rfl, (Option.some.inj h).symm⟩)
    | ok inner =>
      rw [hopen] at h
      obtain ⟨opening, hrest, hopening⟩ := openBrace_eq_ok hopen
      exact .inr (.inr ⟨c, opening, inner, rfl, hrest, hopening, h⟩)

/-- What was read to the end of the text. -/
theorem toEnd?_eq_ok {α : Type} {why : ReadFault} {a : α}
    {taken : Option (Except Fault (α × List Line))} (h : toEnd? why taken = some (.ok a)) :
    taken = some (.ok (a, [])) := by
  obtain ⟨out, rfl, hout⟩ := Option.map_eq_some_iff.1 h
  match out with
  | .error fault => cases hout
  | .ok (a', []) => exact congrArg (fun a => some (Except.ok (a, []))) (Except.ok.inj hout)
  | .ok (a', extra :: rest) => cases hout

end ByteReader

/-- **Whatever body is read** has an outline of all lines of its text. -/
theorem Body.exists_outline {method s : Text} {b : Body} (h : Body.read method s = .ok b) :
    ∃ (m : MethodRef) (o : BodyOutline), MethodRef.read method = .ok m ∧
      o.Leads true (.empty m) b ∧ o.Spans (significantLines s) := by
  cases hm : MethodRef.read method with
  | error bad =>
    rw [Body.read, hm] at h
    cases h
  | ok m =>
    have hread : body? method s = some (.ok b) := (body?_eq method s).trans (congrArg some h)
    obtain hend | ⟨opening, rest, hlines, hopening, hend⟩ := body?_cases hm hread
    · obtain ⟨o, ending, hleads, hall, -, hopen⟩ := outline_of_bodyLines? (toEnd?_eq_ok hend)
      obtain ⟨rfl, -⟩ := hopen rfl
      rw [List.append_nil, List.append_nil] at hall
      exact ⟨m, o, rfl, hleads, hall ▸ .bare⟩
    · obtain ⟨o, closing, hleads, rfl, hclosing⟩ := outline_of_braced (toEnd?_eq_ok hend)
      exact ⟨m, o, rfl, hleads, hlines ▸ .braced hopening hclosing⟩

/-- **Whatever class is read** has an outline of all lines of its text. -/
theorem Class.exists_outline {s : Text} {c : Class} (h : Class.read s = .ok c) :
    ∃ o : ClassOutline, significantLines s = o.lines ∧ c.OutlinedBy o := by
  have hread : class? s = some (.ok c) := (class?_eq s).trans (congrArg some h)
  cases hlines : significantLines s with
  | nil =>
    rw [class?, hlines] at hread
    cases hread
  | cons header rest =>
    obtain ⟨why, hwhy⟩ | ⟨fault, -, hfault⟩ |
      ⟨bare, opening, inner, hheader, rfl, hopening, hend⟩ := class?_cases hlines hread
    · cases hwhy
    · cases hfault
    · obtain ⟨members, closing, hmembers, rfl, hclosing, rfl⟩ :=
        outline_of_members? (toEnd?_eq_ok hend)
      have hempty := Class.empty_of_readHeader hheader
      refine ⟨⟨header, opening, members, closing⟩, rfl, ⟨bare, hheader, rfl⟩, hopening, hmembers,
        hclosing, ?_, ?_⟩
      · rw [Class.withMembers, hempty.1]
        rfl
      · rw [Class.withMembers, hempty.2]
        rfl

end Weaver
