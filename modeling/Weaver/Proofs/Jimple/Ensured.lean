import Weaver.Proofs.Jimple.Taken

/-!
# What the Reader Ensures

Whatever text a body was read from, much of what its well-formedness asks for holds already:
labels have their form and verbatim code is of no other form, exactly static calls have no
receiver, locals have names of locals, and the first statement is no declaration. Each line
that is taken keeps this, so it is an invariant of the reader.

## Main definitions

* `Call.IsGiven`, `Value.IsGiven`, `Stmt.IsGiven`: what is known of what was read.
* `BodyReading.Gives`: **the invariant** of the reader of a body.

## Main results

* `Stmt.read_cases`: the forms of a statement that is read.
* `BodyReading.Gives.step`: every line that is taken keeps the invariant.
* `Body.TakenFrom.exists_gives`: the invariant holds of every body that was read.
-/

namespace Weaver

/-! ### What was read -/

/-- Exactly static calls have no receiver. -/
def Call.IsGiven {α : Type} (e : Call α) : Prop :=
  e.base = none ↔ e.kind = .static

/-- Verbatim code is that of an expression. -/
def Value.IsGiven : Value → Prop
  | .call e => e.IsGiven
  | .verbatim code => IsExpression code
  | _ => True

/-- Labels have their form, and verbatim code is of no other form. -/
def Stmt.IsGiven : Stmt → Prop
  | .assign _ rhs => rhs.IsGiven
  | .invoke e => e.IsGiven
  | .label name => isLabelName name = true
  | .verbatim code => code = [] ∨ IsPlainCode code ∨ IsSwitchBlock code
  | .identity _ _ | .ret _ => True

/-! ### Values and calls -/

namespace CallShape

/-- What begins with the keyword of an invocation is one, if it is read at all. -/
theorem isNoCall_of_read? {s : Text} (h : read? s = .ok none) : IsNoCall s := by
  intro word rest hcut
  rw [read?, hcut] at h
  dsimp only at h
  split at h
  next hnone => exact hnone
  next kind _ =>
    cases hrest : readRest s kind rest with
    | error why => simp [hrest, Except.map] at h
    | ok shape => simp [hrest, Except.map] at h

/-- A receiver is read exactly if the call is not static. -/
theorem base_eq_none_iff {s : Text} {shape : CallShape} (h : read? s = .ok (some shape)) :
    shape.base = none ↔ shape.kind = .static := by
  have hrest : ∀ {whole rest : Text} {kind : CallKind}, readRest whole kind rest = .ok shape →
      (shape.base = none ↔ shape.kind = .static) := by
    intro whole rest kind h
    unfold readRest at h
    split at h
    · cases h
    next base rest' hbase =>
      repeat' split at h
      all_goals cases h
      unfold cutBase? at hbase
      split at hbase
      · cases hbase
        exact iff_of_true rfl rfl
      next hkind =>
        obtain ⟨cut, -, heq⟩ := Option.map_eq_some_iff.1 hbase
        obtain ⟨rfl, -⟩ := Prod.mk.inj heq
        exact iff_of_false (Option.some_ne_none _) hkind
  unfold read? at h
  split at h
  · cases h
  · split at h
    · cases h
    next word rest _ _ kind _ =>
      cases hshape : readRest s kind rest with
      | error why => simp [hshape, Except.map] at h
      | ok shape' =>
        simp only [hshape, Except.map, Except.ok.injEq, Option.some.injEq] at h
        exact hrest (h ▸ hshape)

end CallShape

/-- What is read as no invocation has none at its beginning. -/
theorem Call.isNoCall_of_read? {s : Text} (h : Call.read? s = .ok none) : IsNoCall s := by
  rw [Call.read?] at h
  split at h
  · cases h
  next hshape => exact CallShape.isNoCall_of_read? hshape
  · split at h <;> cases h

/-- **What the reader ensures of invocations.** -/
theorem Call.isGiven_of_read? {s : Text} {e : Invocation} (h : Call.read? s = .ok (some e)) :
    e.IsGiven := by
  rw [Call.read?] at h
  split at h
  · cases h
  · cases h
  next shape hshape =>
    split at h
    · cases h
    next args _ =>
      obtain rfl := Option.some.inj (Except.ok.inj h)
      exact CallShape.base_eq_none_iff hshape

/-- A value that contains no others is given, or the text is kept as it stands. -/
theorem Value.readSimple_isGiven (s : Text) :
    readSimple s = .verbatim s ∨ (readSimple s).IsGiven := by
  have hread : ∀ {v : Value}, readAlloc? s = some v ∨ readStaticField? s = some v ∨
      readInstanceField? s = some v → v.IsGiven := by
    rintro v (h | h | h)
    · unfold readAlloc? at h
      split at h
      · exact Option.some.inj h ▸ trivial
      · cases h
    · unfold readStaticField? at h
      split at h
      · obtain ⟨f, -, rfl⟩ := Option.map_eq_some_iff.1 h
        trivial
      · cases h
    · unfold readInstanceField? at h
      split at h
      · split at h
        · obtain ⟨f, -, rfl⟩ := Option.map_eq_some_iff.1 h
          trivial
        · cases h
      · cases h
  unfold readSimple
  cases Constant.read? s with
  | some c => exact .inr trivial
  | none =>
    cases halloc : readAlloc? s with
    | some v => exact .inr (hread (.inl halloc))
    | none =>
      cases hstatic : readStaticField? s with
      | some v => exact .inr (hread (.inr (.inl hstatic)))
      | none =>
        cases hinstance : readInstanceField? s with
        | some v => exact .inr (hread (.inr (.inr hinstance)))
        | none =>
          cases isLocalName s with
          | true => exact .inr trivial
          | false => exact .inl rfl

/-- **What the reader ensures of values**: verbatim code is that of an expression. -/
theorem Value.isGiven_of_read {s : Text} {v : Value} (hline : '\n' ∉ s)
    (h : Value.read s = .ok v) : v.IsGiven := by
  rw [Value.read] at h
  split at h
  · cases h
  next e he =>
    obtain rfl := Except.ok.inj h
    exact Call.isGiven_of_read? he
  next hnone =>
    obtain rfl := Except.ok.inj h
    obtain hv | hv := Value.readSimple_isGiven (Text.trim s)
    · rw [hv]
      exact ⟨fun hc => hline (Text.mem_of_mem_trim hc), Text.trim_trim s,
        Call.isNoCall_of_read? hnone, hv⟩
    · exact hv

/-! ### Statements -/

/-- The code of a statement on a line of its own, but for its semicolon. -/
structure IsCode (code : Text) : Prop where
  noFeed : '\n' ∉ code
  head : code = [] ∨ ∃ c rest, code = c :: rest ∧ isBlank c = false
  notComment : Text.startsWith code "//".toList = false
  notSwitch : beginsSwitch code = false

/-- Code that is not empty is the line of a statement. -/
theorem IsCode.isStmtLine {code : Text} (h : IsCode code) (hne : code ≠ []) : IsStmtLine code :=
  ⟨h.noFeed, h.head.resolve_left hne, h.notComment, h.notSwitch⟩

/-- A line that counts and begins no switch is code in front of its semicolon. -/
theorem Line.Counts.isCode {line : Line} (h : line.Counts)
    (hswitch : beginsSwitch line.text = false) {code : Text}
    (hcode : line.text = code ++ ";".toList) : IsCode code := by
  have hbegins : ∀ p, Text.startsWith line.text p = false → Text.startsWith code p = false := by
    intro p hp
    rw [← Bool.not_eq_true]
    intro hstarts
    obtain ⟨rest, hrest⟩ := Option.isSome_iff_exists.1 hstarts
    rw [Text.stripPrefix?_eq_some_iff] at hrest
    rw [hcode, hrest, List.append_assoc, Text.startsWith, Text.stripPrefix?_append] at hp
    cases hp
  have hsignificant := h.significant
  rw [isSignificant, Bool.and_eq_true, Bool.not_eq_true', Bool.not_eq_true'] at hsignificant
  refine ⟨fun hc => h.noFeed (hcode ▸ List.mem_append_left _ hc), ?_, hbegins _ hsignificant.2, ?_⟩
  · have hne : Text.trim line.text ≠ [] := by
      rw [h.trimmed]
      simpa using hsignificant.1
    obtain ⟨c, rest, htext, hblank⟩ := (Text.isTight_trim hne).head
    rw [h.trimmed, hcode] at htext
    cases code with
    | nil => exact .inl rfl
    | cons d code => exact .inr ⟨d, code, rfl, (List.cons.inj htext).1 ▸ hblank⟩
  · rw [beginsSwitch, Bool.or_eq_false_iff] at hswitch ⊢
    exact ⟨hbegins _ hswitch.1, hbegins _ hswitch.2⟩

/-- Where one step after the other succeeds, both do. -/
theorem exists_of_bind_eq_ok {ε α β : Type} {x : Except ε α} {f : α → Except ε β} {b : β}
    (h : x >>= f = .ok b) : ∃ a, x = .ok a ∧ f a = .ok b := by
  cases x with
  | error e => cases h
  | ok a => exact ⟨a, rfl, h⟩

/-- The conditions under which a text is kept as it stands. -/
structure IsKept (code : Text) : Prop where
  notReturn : code ≠ "return".toList ∧ Text.startsWith code "return ".toList = false
  notIdentity : identityParts? code = none
  noCall : IsNoCall code
  notAssign : Text.cutOutside? " = ".toList .outside code = none

/-- **The forms of a statement** that is read. -/
theorem Stmt.read_cases {code : Text} {s : Stmt} (h : Stmt.read code = .ok s) :
    (∃ value, s = .ret value) ∨ (∃ name rhs, s = .identity name rhs) ∨
      (∃ e, Call.read? code = .ok (some e) ∧ s = .invoke e) ∨
      (∃ before after lhs rhs, Text.cutOutside? " = ".toList .outside code = some (before, after) ∧
        Value.read after = .ok rhs ∧ s = .assign lhs rhs) ∨
      IsKept code ∧ s = .verbatim code := by
  -- In the order in which the forms are tried.
  unfold Stmt.read at h
  split at h
  · exact .inl ⟨none, (Except.ok.inj h).symm⟩
  next hreturn =>
    split at h
    next value _ =>
      cases hv : Value.read value with
      | error why => simp [hv, Except.map] at h
      | ok v =>
        rw [hv, Except.map, Except.ok.injEq] at h
        exact .inl ⟨some v, h.symm⟩
    next hreturns =>
      unfold Stmt.readEffect at h
      split at h
      next name source ty _ =>
        obtain ⟨ty, -, h⟩ := exists_of_bind_eq_ok h
        obtain ⟨rhs, -, h⟩ := exists_of_bind_eq_ok h
        exact .inr (.inl ⟨name, rhs, (Except.ok.inj h).symm⟩)
      next hidentity =>
        obtain ⟨found, hcall, h⟩ := exists_of_bind_eq_ok h
        cases found with
        | some e => exact .inr (.inr (.inl ⟨e, hcall, (Except.ok.inj h).symm⟩))
        | none =>
          have h : Stmt.readAssign code = .ok s := h
          unfold Stmt.readAssign at h
          split at h
          next before after hcut =>
            obtain ⟨lhs, -, h⟩ := exists_of_bind_eq_ok h
            obtain ⟨rhs, hrhs, h⟩ := exists_of_bind_eq_ok h
            exact .inr (.inr (.inr (.inl
              ⟨before, after, lhs, rhs, hcut, hrhs, (Except.ok.inj h).symm⟩)))
          next hnone =>
            have hstarts : Text.startsWith code "return ".toList = false := by
              rw [Text.startsWith, hreturns]
              rfl
            exact .inr (.inr (.inr (.inr
              ⟨⟨⟨hreturn, hstarts⟩, hidentity, Call.isNoCall_of_read? hcall, hnone⟩,
                (Except.ok.inj h).symm⟩)))

/-- **What the reader ensures of statements**, and verbatim code is kept as it is. -/
theorem Stmt.isGiven_of_read {code : Text} (hcode : IsCode code) {s : Stmt}
    (h : Stmt.read code = .ok s) :
    s.IsGiven ∧ ∀ kept, s = .verbatim kept → kept = code := by
  obtain ⟨value, rfl⟩ | ⟨name, rhs, rfl⟩ | ⟨e, he, rfl⟩ |
    ⟨before, after, lhs, rhs, hcut, hrhs, rfl⟩ | ⟨hkept, rfl⟩ := Stmt.read_cases h
  · exact ⟨trivial, by simp⟩
  · exact ⟨trivial, by simp⟩
  · exact ⟨Call.isGiven_of_read? he, by simp⟩
  · have hpieces := Text.cutOutside?_eq_some hcut
    have hline : '\n' ∉ after :=
      fun hc => hcode.noFeed (hpieces ▸ List.mem_append_right _ hc)
    exact ⟨Value.isGiven_of_read hline hrhs, by simp⟩
  · refine ⟨?_, fun kept hkept => (Stmt.verbatim.inj hkept).symm⟩
    by_cases hne : code = []
    · exact .inl hne
    · exact .inr (.inl ⟨⟨hcode.isStmtLine hne, hkept.notReturn, hkept.notIdentity, hkept.noCall⟩,
        hkept.notAssign⟩)

/-! ### Bodies -/

/-- What is read as the name of a label is one. -/
theorem isLabelName_of_labelName? {line name : Text} (h : labelName? line = some name) :
    isLabelName name = true := by
  unfold labelName? at h
  split at h
  · split at h
    next hform => exact Option.some.inj h ▸ hform
    · cases h
  · cases h

/-- The lines of a switch before its closing brace. -/
def IsOpenSwitch (lines : List Text) : Prop :=
  ∃ first cases, lines = first :: cases ∧ beginsSwitch first = true ∧ labelName? first = none ∧
    ∀ line ∈ first :: cases, '\n' ∉ line ∧ Text.trim line = line ∧ isSignificant line = true ∧
      line ≠ closingBrace ++ ";".toList

/-- A line that does not close the switch is one more of its lines. -/
theorem IsOpenSwitch.concat {lines : List Text} (h : IsOpenSwitch lines) {line : Line}
    (hline : line.Counts) (hopen : line.text ≠ closingBrace ++ ";".toList) :
    IsOpenSwitch (lines ++ [line.text]) ∧ (lines ++ [line.text]).head? = lines.head? := by
  obtain ⟨first, cases, rfl, hbegins, hlabel, hall⟩ := h
  refine ⟨⟨first, cases ++ [line.text], rfl, hbegins, hlabel, ?_⟩, rfl⟩
  rw [← List.cons_append, List.forall_mem_append, List.forall_mem_singleton]
  exact ⟨hall, hline.noFeed, hline.trimmed, hline.significant, hopen⟩

/-- With its closing brace, the switch is complete. -/
theorem IsOpenSwitch.isSwitchBlock {lines : List Text} (h : IsOpenSwitch lines) :
    IsSwitchBlock (Text.join "\n".toList (lines ++ [closingBrace])) ∧
      verbatimLine (Text.join "\n".toList (lines ++ [closingBrace])) ∈ lines.head? := by
  obtain ⟨first, cases, rfl, hbegins, hlabel, hall⟩ := h
  obtain ⟨-, -, hfirst⟩ := BodyReading.lines_switch fun l hl => ⟨(hall l hl).1, (hall l hl).2.1⟩
  refine ⟨⟨first, cases, rfl, hbegins, hlabel, hall⟩, ?_⟩
  rw [List.head?_cons, Option.mem_some_iff]
  exact hfirst.symm

/-- Declaring locals puts them behind the others. -/
theorem Body.eq_withLocals_of_declareAll {ls : List Local} {b b' : Body}
    (h : declareAll ls b = .ok b') : b' = b.withLocals ls := by
  induction ls generalizing b with
  | nil => rw [withLocals_nil, Except.ok.inj h]
  | cons l ls ih =>
    rw [declareAll] at h
    split at h
    · cases h
    · rw [ih h, withLocals, withLocals, List.append_assoc, List.singleton_append]

/-- What a declaration declares has the names of locals. -/
theorem isLocalName_of_readDeclaration? {line : Text} {ls : List Local}
    (h : readDeclaration? line = some ls) : ∀ l ∈ ls, isLocalName l.name = true := by
  obtain ⟨_, _, _, _, _, _, _, hnames, rfl⟩ := readDeclaration?_eq_some_iff.1 h
  rintro _ hl
  obtain ⟨name, hname, rfl⟩ := List.mem_map.1 hl
  exact hnames name hname

/-- **What the reader of the body of `m` ensures**, line by line: in each phase, it has read what
it says it has. -/
structure BodyReading.Gives (m : MethodRef) (r : BodyReading) : Prop where
  method : r.body.method = m
  locals : ∀ l ∈ r.body.locals, isLocalName l.name = true
  stmts : ∀ s ∈ r.body.statements, s.IsGiven
  /-- Verbatim code in front is not taken for one more declaration. -/
  first : ∀ code, r.body.statements.head? = some (.verbatim code) →
    readDeclaration? (verbatimLine code) = none
  declarations : r.phase = .declarations → r.body.statements = []
  statements : r.phase = .statements → r.body.statements ≠ []
  switch : ∀ opened lines, r.phase = .switch opened lines → IsOpenSwitch lines ∧
    (r.body.statements = [] → ∀ line ∈ lines.head?, readDeclaration? line = none)

namespace BodyReading.Gives

variable {m : MethodRef} {r r' : BodyReading}

/-- Nothing has been read at the beginning. -/
theorem start (m : MethodRef) : Gives m (.start m) where
  method := rfl
  locals := by simp [BodyReading.start, Body.empty]
  stmts := by simp [BodyReading.start, Body.empty, Body.statements]
  first := by simp [BodyReading.start, Body.empty, Body.statements]
  declarations _ := rfl
  statements h := by cases h
  switch _ _ h := by cases h

/-- A new statement goes behind the others. -/
theorem statements_push (r : BodyReading) (s : Stmt) :
    (r.push s).body.statements = r.body.statements ++ [s] := by
  simp [BodyReading.push, Body.push, Body.statements]

/-- **One more statement.** -/
theorem push (h : r.Gives m) {s : Stmt} (hs : s.IsGiven)
    (hfirst : r.body.statements = [] → ∀ code, s = .verbatim code →
      readDeclaration? (verbatimLine code) = none) : (r.push s).Gives m where
  method := h.method
  locals := h.locals
  stmts := by
    rw [statements_push, List.forall_mem_append]
    exact ⟨h.stmts, by simpa using hs⟩
  first := by
    intro code hcode
    rw [statements_push] at hcode
    cases hstmts : r.body.statements with
    | nil =>
      rw [hstmts] at hcode
      exact hfirst hstmts code (Option.some.inj hcode)
    | cons t rest =>
      refine h.first code ?_
      rw [hstmts] at hcode ⊢
      exact hcode
  declarations hphase := by cases hphase
  statements _ := by
    rw [statements_push]
    exact List.append_ne_nil_of_right_ne_nil _ (List.cons_ne_nil _ _)
  switch _ _ hphase := by cases hphase

/-- **A line with a statement**, a label or the beginning of a switch. -/
theorem stepStatement (h : r.Gives m) {line : Line} (hline : line.Counts)
    (hdecl : r.body.statements = [] → readDeclaration? line.text = none)
    (hstep : r.stepStatement line = .ok r') : r'.Gives m := by
  unfold BodyReading.stepStatement at hstep
  split at hstep
  next name hname =>
    exact Except.ok.inj hstep ▸ h.push (isLabelName_of_labelName? hname) (by simp)
  next hlabel =>
    split at hstep
    next hswitch =>
      obtain rfl := Except.ok.inj hstep
      have hne : line.text ≠ closingBrace ++ ";".toList := by
        intro htext
        rw [htext] at hswitch
        cases hswitch
      have hlines : IsOpenSwitch [line.text] := ⟨line.text, [], rfl, hswitch, hlabel,
        List.forall_mem_singleton.2 ⟨hline.noFeed, hline.trimmed, hline.significant, hne⟩⟩
      exact {
        method := h.method
        locals := h.locals
        stmts := h.stmts
        first := h.first
        declarations := by simp
        statements := by simp
        switch := by
          rintro opened lines ⟨⟩
          exact ⟨hlines, fun hempty => by simpa using hdecl hempty⟩ }
    next hswitch =>
      split at hstep
      · cases hstep
      next code hcode =>
        have htext := Text.stripSuffix?_eq_some_iff.1 hcode
        have hform : IsCode code := hline.isCode (Bool.eq_false_iff.2 hswitch) htext
        cases hs : Stmt.read code with
        | error why => simp [hs, Except.map] at hstep
        | ok s =>
          rw [hs, Except.map, Except.ok.injEq] at hstep
          obtain ⟨hgiven, hsame⟩ := Stmt.isGiven_of_read hform hs
          refine hstep ▸ h.push hgiven fun hempty kept hkept => ?_
          rw [hsame kept hkept, verbatimLine, if_neg hform.noFeed, ← htext]
          exact hdecl hempty

/-- **A line of a switch**, or the one that closes it. -/
theorem stepSwitch (h : r.Gives m) {line : Line} (hline : line.Counts) {opened : Nat}
    {lines : List Text} (hphase : r.phase = .switch opened lines) :
    (r.stepSwitch opened lines line.text).Gives m := by
  obtain ⟨hlines, hfirst⟩ := h.switch opened lines hphase
  rw [BodyReading.stepSwitch]
  split
  · obtain ⟨hblock, hbegins⟩ := hlines.isSwitchBlock
    refine h.push (.inr (.inr hblock)) fun hempty code hcode => ?_
    rw [← Stmt.verbatim.inj hcode]
    exact hfirst hempty _ hbegins
  next hopen =>
    obtain ⟨hmore, hhead⟩ := hlines.concat hline hopen
    exact {
      method := h.method
      locals := h.locals
      stmts := h.stmts
      first := h.first
      declarations := by simp
      statements := by simp
      switch := by
        rintro opened lines ⟨⟩
        exact ⟨hmore, fun hempty => hhead ▸ hfirst hempty⟩ }

/-- **A line that declares locals.** -/
theorem declareAll (h : r.Gives m) (hphase : r.phase = .declarations) {line : Text}
    {ls : List Local} (hline : readDeclaration? line = some ls) {b : Body}
    (hb : Body.declareAll ls r.body = .ok b) : Gives m { r with body := b } := by
  obtain rfl := Body.eq_withLocals_of_declareAll hb
  exact {
    method := h.method
    locals := List.forall_mem_append.2 ⟨h.locals, isLocalName_of_readDeclaration? hline⟩
    stmts := h.stmts
    first := h.first
    declarations := h.declarations
    statements := h.statements
    switch := by simp [hphase] }

/-- **Every line that is taken.** -/
theorem step (h : r.Gives m) {line : Line} (hline : line.Counts) (hstep : r.step line = .ok r') :
    r'.Gives m := by
  unfold BodyReading.step at hstep
  split at hstep
  next opened lines hphase => exact Except.ok.inj hstep ▸ h.stepSwitch hline hphase
  next hphase =>
    exact h.stepStatement hline (fun hempty => absurd hempty (h.statements hphase)) hstep
  next hphase =>
    split at hstep
    next ls hdecl =>
      cases hb : Body.declareAll ls r.body with
      | error why => simp [hb, Except.map] at hstep
      | ok b =>
        rw [hb, Except.map, Except.ok.injEq] at hstep
        exact hstep ▸ h.declareAll hphase hdecl hb
    next hdecl => exact h.stepStatement hline (fun _ => hdecl) hstep

/-- **All lines** of a body keep what the reader ensures. -/
theorem takes {lines : List Line} (h : r.Gives m) (hlines : ∀ line ∈ lines, line.Counts)
    (htakes : r.Takes lines r') : r'.Gives m := by
  induction htakes with
  | nil => exact h
  | cons _ hstep _ ih =>
    rw [List.forall_mem_cons] at hlines
    exact ih (h.step hlines.1 hstep) hlines.2

end BodyReading.Gives

/-- **The invariant holds** of every body that was read. -/
theorem Body.TakenFrom.exists_gives {lines : List Line} {m : MethodRef} {b : Body}
    (h : b.TakenFrom lines m) (hlines : ∀ line ∈ lines, line.Counts) :
    ∃ r : BodyReading, r.Gives m ∧ r.body = b := by
  obtain ⟨taken, r, hsub, htakes, hb⟩ := h
  have hcount : ∀ line ∈ taken, line.Counts := fun line hline => hlines line (hsub hline)
  exact ⟨r, (BodyReading.Gives.start m).takes hcount htakes, hb⟩

end Weaver
