import Weaver.Jimple.Reader.Class
import Weaver.Proofs.Jimple.Bounds.Header
import Weaver.Proofs.Jimple.Bounds.Value

/-!
# Reading Code at Byte Offsets

The reader of classes and bodies as it runs over bytes. It does not take one line after the other
and decide what the line may be by what has been read so far; its functions call each other, and all
of them take lines from **one cursor**: a switch takes the lines up to its closing brace, a body the
lines up to the end of the text or to a brace, and the members of a class take bodies. Both ways of
reading give the same on every text, and the one at byte offsets is never stopped.

## Main definitions

* `ByteReader.switch`, `ByteReader.bodyLines?`, `ByteReader.members?`: what takes lines from the
  cursor.
* `ByteReader.class?`, `ByteReader.body?`: whole texts.
* `ByteReader.Drives`: a reader that goes through a body line by line.

## Main results

* `ByteReader.Drives.bodyLines?_eq`: **going line by line** through a body and taking it from the
  cursor.
* `ByteReader.class?_eq`, `ByteReader.body?_eq`: **the reader is never stopped**.
-/

namespace Weaver.ByteReader

open Text

/-! ### Lines -/

/-- The locals that a line declares, if it may declare any. -/
def declared? (declaring : Bool) (line : Text) : Option (List Local) :=
  if declaring then readDeclaration? line else none

/-- Whether a line opens a switch. -/
def opensSwitch (line : Text) : Bool :=
  startsWith line "tableswitch".toList || startsWith line "lookupswitch".toList

/-- The label or statement of a line that declares no locals; none if it opens a switch. -/
def lineStmt (line : Text) : Except ReadFault (Option Stmt) :=
  match labelName? line with
  | some name => .ok (some (.label name))
  | none =>
    if opensSwitch line then .ok none
    else
      match stripSuffix? ";".toList line with
      | none => .error .statementEnd
      | some code => (Stmt.read code).map some

/-- The same at byte offsets. -/
def lineStmt? (line : Text) : Option (Except ReadFault (Option Stmt)) :=
  match labelName? line with
  | some name => some (.ok (some (.label name)))
  | none =>
    if opensSwitch line then some (.ok none)
    else
      match stripSuffix? ";".toList line with
      | none => some (.error .statementEnd)
      | some code => (stmt? code).map fun s => s.map some

/-- At byte offsets, a line is read as before. -/
theorem lineStmt?_eq (line : Text) : lineStmt? line = some (lineStmt line) := by
  rw [lineStmt?, lineStmt]
  cases labelName? line with
  | some name => rfl
  | none =>
    dsimp only
    split
    · rfl
    · cases stripSuffix? ";".toList line with
      | none => rfl
      | some code => exact congrArg (Option.map _) (stmt?_eq code)

/-- What the next line of a body may be, unless it is one of a switch. -/
def phase (declaring : Bool) : BodyPhase :=
  if declaring then .declarations else .statements

/-- Outside of a switch, only the closing brace ends the body. -/
theorem isClosedBy_phase (declaring : Bool) (b : Body) (line : Text) :
    BodyReading.isClosedBy ⟨b, phase declaring⟩ line = (line == closingBrace) := by
  cases declaring <;> rfl

/-- One step of the reader in terms of what the line holds. -/
theorem stepStatement_eq (r : BodyReading) (line : Line) :
    r.stepStatement line =
      match lineStmt line.text with
      | .error why => .error why
      | .ok (some s) => .ok ⟨(r.body.push s).2, .statements⟩
      | .ok none => .ok ⟨r.body, .switch line.number [line.text]⟩ := by
  rw [BodyReading.stepStatement, lineStmt]
  cases labelName? line.text with
  | some name => rfl
  | none =>
    dsimp only
    rw [← opensSwitch]
    split
    · rfl
    · cases stripSuffix? ";".toList line.text with
      | none => rfl
      | some code =>
        dsimp only
        cases Stmt.read code <;> rfl

/-- **One step** of the reader that goes line by line. -/
theorem step_phase (declaring : Bool) (b : Body) (line : Line) :
    BodyReading.step ⟨b, phase declaring⟩ line =
      match declared? declaring line.text with
      | some locals => (Body.declareAll locals b).map fun b => ⟨b, phase declaring⟩
      | none =>
        match lineStmt line.text with
        | .error why => .error why
        | .ok (some s) => .ok ⟨(b.push s).2, phase false⟩
        | .ok none => .ok ⟨b, .switch line.number [line.text]⟩ := by
  cases declaring with
  | false => exact stepStatement_eq ⟨b, .statements⟩ line
  | true =>
    change (match readDeclaration? line.text with
      | some locals =>
        (Body.declareAll locals b).map fun body => (⟨body, .declarations⟩ : BodyReading)
      | none => BodyReading.stepStatement ⟨b, .statements⟩ line) = _
    rw [stepStatement_eq]
    rfl

/-! ### Bodies -/

/-- Takes the lines of a switch that was opened on the line `opened`, up to its closing brace. -/
def switch (opened : Nat) (taken : List Text) : List Line → Except Fault (Text × List Line)
  | [] => .error (.read opened .openSwitch)
  | line :: rest =>
    if line.text = closingBrace ++ ";".toList then
      .ok (join "\n".toList (taken ++ [closingBrace]), rest)
    else switch opened (taken ++ [line.text]) rest

/-- A switch uses up at least one line. -/
theorem length_of_switch {opened : Nat} {taken : List Text} {lines behind : List Line} {code : Text}
    (h : switch opened taken lines = .ok (code, behind)) : behind.length < lines.length := by
  induction lines generalizing taken with
  | nil => cases h
  | cons line rest ih =>
    rw [switch] at h
    split at h
    · obtain ⟨-, rfl⟩ := Prod.mk.inj (Except.ok.inj h)
      exact Nat.lt_succ_self _
    · exact Nat.lt_succ_of_lt (ih h)

/-- Takes the lines of a body: to its closing brace if it is `braced`, else to the end of the text,
the last line of which has the number `last`. While `declaring`, a line may declare locals. -/
def bodyLines? (braced : Bool) (last : Nat) (declaring : Bool) (b : Body) :
    List Line → Option (Except Fault (Body × List Line))
  | [] => some (if braced then .error (.read last .openBody) else .ok (b, []))
  | line :: rest =>
    if line.text = closingBrace then
      some (if braced then .ok (b, rest) else .error (.read line.number .strayBrace))
    else
      match declared? declaring line.text with
      | some locals =>
        match Body.declareAll locals b with
        | .error why => some (.error (.read line.number why))
        | .ok b => bodyLines? braced last declaring b rest
      | none =>
        match lineStmt? line.text with
        | none => none
        | some (.error why) => some (.error (.read line.number why))
        | some (.ok (some s)) => bodyLines? braced last false (b.push s).2 rest
        | some (.ok none) =>
          match _h : switch line.number [line.text] rest with
          | .error fault => some (.error fault)
          | .ok (code, behind) => bodyLines? braced last false (b.push (.verbatim code)).2 behind
termination_by lines => lines.length
decreasing_by
  · exact Nat.lt_succ_self _
  · exact Nat.lt_succ_self _
  · exact Nat.lt_succ_of_lt (length_of_switch _h)

/-- A reader that **goes through a body line by line**, and does what `done` says with the body and
the lines behind it. -/
structure Drives {α : Type} (braced : Bool) (last : Nat)
    (D : BodyReading → List Line → Except Fault α) (done : Body → List Line → Except Fault α) :
    Prop where
  nil : ∀ r, D r [] =
    match r.phase with
    | .switch opened _ => .error (.read opened .openSwitch)
    | _ => if braced then .error (.read last .openBody) else done r.body []
  cons : ∀ r line rest, D r (line :: rest) =
    if r.isClosedBy line.text then
      if braced then done r.body rest else .error (.read line.number .strayBrace)
    else
      match r.step line with
      | .error why => .error (.read line.number why)
      | .ok r => D r rest

namespace Drives

variable {α : Type} {braced : Bool} {last : Nat} {D : BodyReading → List Line → Except Fault α}
  {done : Body → List Line → Except Fault α} (h : Drives braced last D done)
include h

/-- **A switch** is taken in one go. -/
theorem switch_eq (b : Body) (opened : Nat) (taken : List Text) (lines : List Line) :
    D ⟨b, .switch opened taken⟩ lines =
      match switch opened taken lines with
      | .error fault => .error fault
      | .ok (code, behind) => D ⟨(b.push (.verbatim code)).2, phase false⟩ behind := by
  induction lines generalizing taken with
  | nil => rw [h.nil, switch]
  | cons line rest ih =>
    rw [h.cons, switch, BodyReading.isClosedBy, BodyReading.step]
    simp only [Bool.false_eq_true, if_false, BodyReading.stepSwitch]
    by_cases hclose : line.text = closingBrace ++ ";".toList
    · rw [if_pos hclose, if_pos hclose]
      rfl
    · rw [if_neg hclose, if_neg hclose]
      exact ih _

/-- Outside of a switch, one line is taken by its form. -/
theorem cons_phase (declaring : Bool) (b : Body) (line : Line) (rest : List Line) :
    D ⟨b, phase declaring⟩ (line :: rest) =
      if line.text = closingBrace then
        if braced then done b rest else .error (.read line.number .strayBrace)
      else
        match declared? declaring line.text with
        | some locals =>
          match Body.declareAll locals b with
          | .error why => .error (.read line.number why)
          | .ok b => D ⟨b, phase declaring⟩ rest
        | none =>
          match lineStmt line.text with
          | .error why => .error (.read line.number why)
          | .ok (some s) => D ⟨(b.push s).2, phase false⟩ rest
          | .ok none => D ⟨b, .switch line.number [line.text]⟩ rest := by
  rw [h.cons, isClosedBy_phase, step_phase]
  simp only [beq_iff_eq]
  split
  · rfl
  · cases declared? declaring line.text with
    | some locals =>
      dsimp only
      cases Body.declareAll locals b <;> rfl
    | none =>
      dsimp only
      rcases lineStmt line.text with why | _ | s <;> rfl

/-- **Going line by line** through a body does what is done with the body that is taken from the
cursor, which is never stopped. -/
theorem bodyLines?_eq (declaring : Bool) (b : Body) (lines : List Line) :
    ∃ out, bodyLines? braced last declaring b lines = some out ∧
      D ⟨b, phase declaring⟩ lines = out.bind fun taken => done taken.1 taken.2 := by
  -- One case for each way out, along the cursor.
  fun_induction bodyLines? braced last declaring b lines with
  | case1 declaring b =>
    refine ⟨_, rfl, ?_⟩
    rw [h.nil]
    cases declaring <;> cases braced <;> rfl
  | case2 declaring b line rest hclose =>
    refine ⟨_, rfl, ?_⟩
    rw [h.cons_phase, if_pos hclose]
    cases braced <;> rfl
  | case3 declaring b line rest hopen locals hlocals why hwhy =>
    refine ⟨_, rfl, ?_⟩
    rw [h.cons_phase, if_neg hopen, hlocals]
    simp only [hwhy]
    rfl
  | case4 declaring b line rest hopen locals hlocals b' hb' ih =>
    obtain ⟨out, hout, hrest⟩ := ih
    refine ⟨out, hout, ?_⟩
    rw [h.cons_phase, if_neg hopen, hlocals]
    simp only [hb']
    exact hrest
  | case5 declaring b line rest hopen hlocals hstop =>
    rw [lineStmt?_eq] at hstop
    cases hstop
  | case6 declaring b line rest hopen hlocals why hwhy =>
    rw [lineStmt?_eq, Option.some.injEq] at hwhy
    refine ⟨_, rfl, ?_⟩
    rw [h.cons_phase, if_neg hopen, hlocals]
    simp only [hwhy]
    rfl
  | case7 declaring b line rest hopen hlocals s hs ih =>
    rw [lineStmt?_eq, Option.some.injEq] at hs
    obtain ⟨out, hout, hrest⟩ := ih
    refine ⟨out, hout, ?_⟩
    rw [h.cons_phase, if_neg hopen, hlocals]
    simp only [hs]
    exact hrest
  | case8 declaring b line rest hopen hlocals hs fault hfault =>
    rw [lineStmt?_eq, Option.some.injEq] at hs
    refine ⟨_, rfl, ?_⟩
    rw [h.cons_phase, if_neg hopen, hlocals]
    simp only [hs]
    rw [h.switch_eq, hfault]
    rfl
  | case9 declaring b line rest hopen hlocals hs code behind hcode ih =>
    rw [lineStmt?_eq, Option.some.injEq] at hs
    obtain ⟨out, hout, hrest⟩ := ih
    refine ⟨out, hout, ?_⟩
    rw [h.cons_phase, if_neg hopen, hlocals]
    simp only [hs]
    rw [h.switch_eq, hcode]
    exact hrest

end Drives

/-- A body leaves no more lines than there were. -/
theorem length_of_bodyLines? {braced declaring : Bool} {last : Nat} {b b' : Body}
    {lines behind : List Line}
    (h : bodyLines? braced last declaring b lines = some (.ok (b', behind))) :
    behind.length ≤ lines.length := by
  fun_induction bodyLines? braced last declaring b lines with
  | case1 =>
    split at h
    · cases h
    · obtain ⟨-, rfl⟩ := Prod.mk.inj (Except.ok.inj (Option.some.inj h))
      exact Nat.le_refl 0
  | case2 =>
    split at h
    · obtain ⟨-, rfl⟩ := Prod.mk.inj (Except.ok.inj (Option.some.inj h))
      exact Nat.le_succ _
    · cases h
  | case4 _ _ _ _ _ _ _ _ _ ih | case7 _ _ _ _ _ _ _ _ ih => exact Nat.le_succ_of_le (ih h)
  | case9 _ _ _ _ _ _ _ _ _ hcode ih =>
    exact Nat.le_succ_of_le (Nat.le_trans (ih h) (Nat.le_of_lt (length_of_switch hcode)))
  | case3 | case5 | case6 | case8 => cases h

/-! ### Classes -/

/-- Takes an opening brace. -/
def openBrace (last : Nat) : List Line → Except Fault (List Line)
  | [] => .error (.read last (.expected openingBrace none))
  | line :: rest =>
    if line.text = openingBrace then .ok rest
    else .error (.read line.number (.expected openingBrace (some line.text)))

/-- An opening brace uses up a line. -/
theorem length_of_openBrace {last : Nat} {lines behind : List Line}
    (h : openBrace last lines = .ok behind) : behind.length < lines.length := by
  cases lines with
  | nil => cases h
  | cons line rest =>
    rw [openBrace] at h
    split at h
    · exact Except.ok.inj h ▸ Nat.lt_succ_self _
    · cases h

/-- Takes the members of a class up to its closing brace. -/
def members? (last : Nat) (c : Class) : List Line → Option (Except Fault (Class × List Line))
  | [] => some (.error (.read last .openClass))
  | line :: rest =>
    if line.text = closingBrace then some (.ok (c, rest))
    else if List.contains line.text '(' then
      match methodHeader? line.text with
      | none => none
      | some (.error why) => some (.error (.read line.number why))
      | some (.ok (m, false)) => members? last { c with methods := c.methods ++ [m] } rest
      | some (.ok (m, true)) =>
        match _hopen : openBrace last rest with
        | .error fault => some (.error fault)
        | .ok inner =>
          match _hbody : bodyLines? true last true (.empty (c.refTo m.sig)) inner with
          | none => none
          | some (.error fault) => some (.error fault)
          | some (.ok (b, behind)) =>
            members? last { c with methods := c.methods ++ [{ m with body := some b }] } behind
    else
      match field? line.text with
      | none => none
      | some (.error why) => some (.error (.read line.number why))
      | some (.ok f) => members? last { c with fields := c.fields ++ [f] } rest
termination_by lines => lines.length
decreasing_by
  · exact Nat.lt_succ_self _
  · have h₁ := length_of_openBrace _hopen
    have h₂ := length_of_bodyLines? _hbody
    exact Nat.lt_succ_of_lt (Nat.lt_of_le_of_lt h₂ h₁)
  · exact Nat.lt_succ_self _

/-- What has been read, if no line is left; `why` rejects one that is. -/
def ended {α : Type} (why : ReadFault) (a : α) : List Line → Except Fault α
  | [] => .ok a
  | extra :: _ => .error (.read extra.number why)

/-- What was taken, if it was taken to the end of the text. -/
def toEnd? {α : Type} (why : ReadFault) (taken : Option (Except Fault (α × List Line))) :
    Option (Except Fault α) :=
  taken.map fun out => out.bind fun taken => ended why taken.1 taken.2

/-- Reads a class. -/
def class? (s : Text) : Option (Except Fault Class) :=
  let lines := significantLines s
  match lines with
  | [] => some (.error (.read 0 .emptyFile))
  | header :: rest =>
    match classHeader? header.text with
    | none => none
    | some (.error why) => some (.error (.read header.number why))
    | some (.ok c) =>
      match openBrace (lastNumber lines) rest with
      | .error fault => some (.error fault)
      | .ok inner => toEnd? .afterClass (members? (lastNumber lines) c inner)

/-- Takes an opening brace if there is one, and says so. -/
def optionalBrace : List Line → Bool × List Line
  | [] => (false, [])
  | line :: rest => if line.text = openingBrace then (true, rest) else (false, line :: rest)

/-- Reads the body of a method, with or without braces around it. -/
def body? (method s : Text) : Option (Except Fault Body) :=
  match methodRef? method with
  | none => none
  | some (.error bad) => some (.error (.badSignature bad))
  | some (.ok m) =>
    let lines := significantLines s
    let (braced, inner) := optionalBrace lines
    toEnd? .afterBody (bodyLines? braced (lastNumber lines) true (.empty m) inner)

/-- The rest of the reader that goes line by line. -/
def run (last : Nat) (r : ClassReading) (lines : List Line) : Except Fault Class :=
  (r.stepAll lines).bind fun r => r.finish last

/-- Running the reader is taking all steps and then finishing. -/
theorem run_eq (last : Nat) (r : ClassReading) (lines : List Line) :
    run last r lines =
      match r.stepAll lines with
      | .error fault => .error fault
      | .ok r => r.finish last := by
  rw [run]
  cases r.stepAll lines <;> rfl

theorem run_nil (last : Nat) (r : ClassReading) : run last r [] = r.finish last :=
  rfl

/-- Running the reader takes one step after the other. -/
theorem run_cons (last : Nat) (r : ClassReading) (line : Line) (rest : List Line) :
    run last r (line :: rest) =
      match r.step line with
      | .error why => .error (.read line.number why)
      | .ok r => run last r rest := by
  rw [run, ClassReading.stepAll]
  cases r.step line <;> rfl

/-- In the body of a method, the reader of classes goes through it line by line. -/
theorem drives_run (last : Nat) (c : Class) (m : Method) :
    Drives true last (fun r => run last ⟨c, .body m r⟩) (fun b =>
      run last ⟨{ c with methods := c.methods ++ [{ m with body := some b }] }, .members⟩) where
  nil r := by
    obtain ⟨b, phase⟩ := r
    cases phase <;> rfl
  cons r line rest := by
    rw [run_cons, ClassReading.step]
    dsimp only
    cases r.isClosedBy line.text with
    | true => rfl
    | false =>
      simp only [Bool.false_eq_true, if_false]
      cases r.step line <;> rfl

/-- Where a brace is expected, the reader takes it first. -/
theorem run_openBrace (last : Nat) (lines : List Line) {r next : ClassReading}
    (hfinish : r.finish last = .error (.read last (.expected openingBrace none)))
    (hstep : ∀ line : Line, r.step line = ClassReading.openBrace line.text next) :
    run last r lines = (openBrace last lines).bind (run last next) := by
  cases lines with
  | nil =>
    rw [run_nil, hfinish]
    rfl
  | cons line rest =>
    rw [run_cons, hstep, ClassReading.openBrace, openBrace]
    by_cases hopen : line.text = openingBrace
    · rw [if_pos hopen, if_pos hopen]
      rfl
    · rw [if_neg hopen, if_neg hopen]
      rfl

/-- **One member** of a class, line by line. -/
theorem run_members (last : Nat) (c : Class) (line : Line) (rest : List Line) :
    run last ⟨c, .members⟩ (line :: rest) =
      if line.text = closingBrace then run last ⟨c, .closed⟩ rest
      else if List.contains line.text '(' then
        match Method.readHeader line.text with
        | .error why => .error (.read line.number why)
        | .ok (m, false) => run last ⟨{ c with methods := c.methods ++ [m] }, .members⟩ rest
        | .ok (m, true) =>
          (openBrace last rest).bind (run last ⟨c, .body m (.start (c.refTo m.sig))⟩)
      else
        match Field.read line.text with
        | .error why => .error (.read line.number why)
        | .ok f => run last ⟨{ c with fields := c.fields ++ [f] }, .members⟩ rest := by
  rw [run_cons, ClassReading.step]
  dsimp only
  rw [ClassReading.stepMember]
  by_cases hclose : line.text = closingBrace
  · rw [if_pos hclose, if_pos hclose]
  · rw [if_neg hclose, if_neg hclose]
    cases List.contains line.text '(' with
    | true =>
      rw [if_pos rfl, if_pos rfl]
      rcases Method.readHeader line.text with why | ⟨m, _ | _⟩
      · rfl
      · rfl
      · exact run_openBrace last rest rfl fun line => rfl
    | false =>
      rw [if_neg Bool.false_ne_true, if_neg Bool.false_ne_true]
      cases Field.read line.text <;> rfl

/-- **The members** of a class, line by line and from the cursor. -/
theorem members?_eq (last : Nat) (c : Class) (lines : List Line) :
    ∃ out, members? last c lines = some out ∧
      run last ⟨c, .members⟩ lines = out.bind fun taken => run last ⟨taken.1, .closed⟩ taken.2 := by
  -- One case for each way out. The readers of single lines are never stopped, nor is that of a
  -- body.
  fun_induction members? last c lines with
  | case1 => exact ⟨_, rfl, rfl⟩
  | case2 c line rest hclose =>
    refine ⟨_, rfl, ?_⟩
    rw [run_members, if_pos hclose]
    rfl
  | case3 c line rest hmember hmethod hstop =>
    rw [methodHeader?_eq] at hstop
    cases hstop
  | case4 c line rest hmember hmethod why hwhy =>
    rw [methodHeader?_eq, Option.some.injEq] at hwhy
    refine ⟨_, rfl, ?_⟩
    rw [run_members, if_neg hmember, if_pos hmethod, hwhy]
    rfl
  | case5 c line rest hmember hmethod m hm ih =>
    rw [methodHeader?_eq, Option.some.injEq] at hm
    rw [run_members, if_neg hmember, if_pos hmethod, hm]
    exact ih
  | case6 c line rest hmember hmethod m hm fault hfault =>
    rw [methodHeader?_eq, Option.some.injEq] at hm
    refine ⟨_, rfl, ?_⟩
    rw [run_members, if_neg hmember, if_pos hmethod, hm]
    dsimp only
    rw [hfault]
    rfl
  | case7 c line rest hmember hmethod m hm inner hinner hstop =>
    obtain ⟨out, hout, -⟩ :=
      (drives_run last c m).bodyLines?_eq true (.empty (c.refTo m.sig)) inner
    rw [hstop] at hout
    cases hout
  | case8 c line rest hmember hmethod m hm inner hinner fault hfault =>
    rw [methodHeader?_eq, Option.some.injEq] at hm
    obtain ⟨out, hout, hrun⟩ :=
      (drives_run last c m).bodyLines?_eq true (.empty (c.refTo m.sig)) inner
    obtain rfl := Option.some.inj (hfault.symm.trans hout)
    refine ⟨_, rfl, ?_⟩
    rw [run_members, if_neg hmember, if_pos hmethod, hm]
    dsimp only
    rw [hinner]
    exact hrun
  | case9 c line rest hmember hmethod m hm inner hinner b behind hbody ih =>
    rw [methodHeader?_eq, Option.some.injEq] at hm
    obtain ⟨out, hout, hrun⟩ :=
      (drives_run last c m).bodyLines?_eq true (.empty (c.refTo m.sig)) inner
    obtain rfl := Option.some.inj (hbody.symm.trans hout)
    obtain ⟨out, hout, hrest⟩ := ih
    refine ⟨out, hout, ?_⟩
    rw [run_members, if_neg hmember, if_pos hmethod, hm]
    dsimp only
    rw [hinner, ← hrest]
    exact hrun
  | case10 c line rest hmember hfield hstop =>
    rw [field?_eq] at hstop
    cases hstop
  | case11 c line rest hmember hfield why hwhy =>
    rw [field?_eq, Option.some.injEq] at hwhy
    refine ⟨_, rfl, ?_⟩
    rw [run_members, if_neg hmember, if_neg hfield, hwhy]
    rfl
  | case12 c line rest hmember hfield f hf ih =>
    rw [field?_eq, Option.some.injEq] at hf
    rw [run_members, if_neg hmember, if_neg hfield, hf]
    exact ih

/-! ### Whole texts -/

/-- Behind the class no line may be left. -/
theorem run_closed (last : Nat) (c : Class) (lines : List Line) :
    run last ⟨c, .closed⟩ lines = ended .afterClass c lines := by
  cases lines <;> rfl

/-- **The reader of classes** at byte offsets is never stopped. -/
theorem class?_eq (s : Text) : class? s = some (Class.read s) := by
  rw [class?, Class.read]
  cases significantLines s with
  | nil => rfl
  | cons header rest =>
    dsimp only
    rw [classHeader?_eq]
    cases Class.readHeader header.text with
    | error why => rfl
    | ok c =>
      refine Eq.trans ?_ (congrArg some (run_eq (lastNumber (header :: rest)) ⟨c, .opening⟩ rest))
      rw [run_openBrace _ rest rfl fun line => rfl]
      dsimp only
      cases openBrace (lastNumber (header :: rest)) rest with
      | error fault => rfl
      | ok inner =>
        obtain ⟨out, hout, hmembers⟩ := members?_eq (lastNumber (header :: rest)) c inner
        dsimp only
        rw [hout]
        refine congrArg some (Eq.symm (hmembers.trans ?_))
        simp only [run_closed]

/-- The reader of bodies goes line by line through a body in braces. -/
theorem drives_readBraced (last : Nat) :
    Drives true last (Body.readBraced last) (ended .afterBody) where
  nil r := by
    obtain ⟨b, phase⟩ := r
    cases phase <;> rfl
  cons r line rest := by
    rw [Body.readBraced.eq_def]
    cases rest <;> rfl

/-- The reader of bodies goes line by line through a body without braces. -/
theorem drives_readLines (last : Nat) :
    Drives false last Body.readLines (ended .afterBody) where
  nil r := by
    obtain ⟨b, phase⟩ := r
    cases phase <;> rfl
  cons _ _ _ := rfl

/-- **The reader of bodies** at byte offsets is never stopped. -/
theorem body?_eq (method s : Text) : body? method s = some (Body.read method s) := by
  have hdrives {braced : Bool} {last : Nat} {D : BodyReading → List Line → Except Fault Body}
      (h : Drives braced last D (ended .afterBody)) (m : MethodRef) (lines : List Line) :
      toEnd? .afterBody (bodyLines? braced last true (.empty m) lines) =
        some (D (.start m) lines) := by
    obtain ⟨out, hout, hread⟩ := h.bodyLines?_eq true (.empty m) lines
    rw [hout]
    exact congrArg some hread.symm
  rw [body?, Body.read, methodRef?_eq]
  cases MethodRef.read method with
  | error bad => rfl
  | ok m =>
    dsimp only
    cases significantLines s with
    | nil => exact hdrives (drives_readLines 0) m []
    | cons first rest =>
      rw [optionalBrace]
      dsimp only
      by_cases hopen : first.text = openingBrace
      · rw [if_pos hopen, if_pos hopen]
        exact hdrives (drives_readBraced (lastNumber (first :: rest))) m rest
      · rw [if_neg hopen, if_neg hopen]
        exact hdrives (drives_readLines (lastNumber (first :: rest))) m (first :: rest)

end Weaver.ByteReader
