import Weaver.Jimple.Reader.Stmt
import Weaver.Proofs.Jimple.Bounds.Reference
import Weaver.Proofs.Jimple.Bounds.Scanner
import Weaver.Proofs.Jimple.RoundTrip.Operand

/-!
# Reading Statements at Byte Offsets

The reader of statements as it runs over bytes: the parts of an invocation, of a literal and of an
assignment are slices between offsets that a search has found. One function for each function of the
reader says what becomes of a text, where `none` stands for a reader that was stopped; and each is
shown to give what the function over characters gives, on **every** text.

## Main definitions

* `ByteReader.shape?`, `ByteReader.simple?`, `ByteReader.value?`, `ByteReader.call?`,
  `ByteReader.stmt?`.

## Main results

* `ByteReader.shape?_eq`, `ByteReader.simple?_eq`: invocations up to their arguments, and values
  without arguments.
* `ByteReader.call?_eq`, `ByteReader.value?_eq`, `ByteReader.stmt?_eq`: **statements are read
  without a stop**.
-/

namespace Weaver.ByteReader

open Text

/-! ### The shape of an invocation -/

/-- The receiver of an invocation and the offset of its method. -/
def receiver? (kind : CallKind) (s : Text) : Option (Option (Option Text × Nat)) :=
  match kind with
  | .static => some (some (none, 0))
  | _ =>
    match find? ".<".toList s with
    | none => some none
    | some dot => (sliceTo? dot s).map fun base => some (some (trim base), dot + 1)

/-- Reads what follows the keyword of an invocation. -/
def callRest? (whole : Text) (kind : CallKind) (s : Text) :
    Option (Except ReadFault CallShape) := do
  match ← receiver? kind s with
  | none => return .error (.invocation whole)
  | some (base, start) =>
    match ← referenceEnd? s start with
    | none => return .error (.invocation whole)
    | some close =>
      let method ← slice? start (close + 1) s
      match ← methodRef? method with
      | .error bad => return .error (.reference bad)
      | .ok method =>
        let behind ← sliceFrom? (close + 1) s
        match CallShape.cutArgs? behind with
        | none => return .error (.invocation whole)
        | some args => return .ok { kind, base, method, args }

/-- Reads an invocation up to its arguments. -/
def shape? (s : Text) : Option (Except ReadFault (Option CallShape)) :=
  match cutAtChar? ' ' s with
  | none => some (.ok none)
  | some (word, rest) =>
    match CallKind.ofKeyword? word with
    | none => some (.ok none)
    | some kind => (callRest? s kind rest).map fun shape => shape.map some

/-- The arguments one by one. -/
def argTexts? (shape : CallShape) : Option (List Text) :=
  if trim shape.args = [] then some [] else splitTopLevel? ',' shape.args

/-- Where no receiver is cut off, none is found at byte offsets. -/
theorem receiver?_of_none {kind : CallKind} {s : Text} (h : CallShape.cutBase? kind s = none) :
    receiver? kind s = some none := by
  have hnone : kind ≠ .static → find? ".<".toList s = none := by
    intro hkind
    have hcut : cutAt? ".<".toList s = none := by
      cases kind with
      | static => exact absurd rfl hkind
      | _ => exact Option.map_eq_none_iff.1 h
    rw [find?, hcut]
    rfl
  cases kind with
  | static => cases h
  | _ => simp only [receiver?, hnone (by simp)]

/-- The method stands at the offset behind the receiver. -/
theorem receiver?_of_some {kind : CallKind} {s rest : Text} {base : Option Text}
    (h : CallShape.cutBase? kind s = some (base, rest)) :
    ∃ done, s = done ++ rest ∧ receiver? kind s = some (some (base, Utf8.length done)) := by
  by_cases hkind : kind = .static
  · subst hkind
    obtain ⟨rfl, rfl⟩ := Prod.mk.inj (Option.some.inj h)
    exact ⟨[], rfl, rfl⟩
  · obtain ⟨before, after, hcut, hbase, hrest⟩ : ∃ before after,
        cutAt? ".<".toList s = some (before, after) ∧ some (trim before) = base ∧
          '<' :: after = rest := by
      have hmap : (cutAt? ".<".toList s).map
          (fun found => (some (trim found.1), '<' :: found.2)) = some (base, rest) := by
        cases kind with
        | static => exact absurd rfl hkind
        | _ => exact h
      obtain ⟨⟨before, after⟩, hcut, heq⟩ := Option.map_eq_some_iff.1 hmap
      exact ⟨before, after, hcut, Prod.mk.inj heq⟩
    have hfind : find? ".<".toList s = some (Utf8.length before) := by
      rw [find?, hcut]
      rfl
    have hs := cutAt?_eq_some hcut
    have hslice : sliceTo? (Utf8.length before) s = some before := by
      rw [hs, List.append_assoc]
      exact sliceTo?_append ..
    refine ⟨before ++ ['.'], ?_, ?_⟩
    · rw [hs, ← hrest]
      simp
    · rw [Utf8.length_concat, ← hbase]
      cases kind with
      | static => exact absurd rfl hkind
      | _ =>
        simp only [receiver?, hfind, hslice]
        rfl

/-- At byte offsets, what follows the keyword of a call is read as before. -/
theorem callRest?_eq (whole : Text) (kind : CallKind) (s : Text) :
    callRest? whole kind s = some (CallShape.readRest whole kind s) := by
  rw [callRest?, CallShape.readRest]
  cases hbase : CallShape.cutBase? kind s with
  | none =>
    rw [receiver?_of_none hbase]
    rfl
  | some found =>
    obtain ⟨base, rest⟩ := found
    obtain ⟨done, rfl, hreceiver⟩ := receiver?_of_some hbase
    rw [hreceiver]
    simp only [Option.bind_eq_bind, Option.bind_some]
    cases hclosed : cutClosed? 0 rest with
    | none =>
      rw [referenceEnd?_of_none done hclosed]
      rfl
    | some found =>
      obtain ⟨method, behind⟩ := found
      obtain ⟨close, hend, hoffset⟩ := referenceEnd?_of_some done hclosed
      obtain rfl := cutClosed?_eq_some hclosed
      have hmethod : slice? (Utf8.length done) (close + 1) (done ++ (method ++ behind)) =
          some method := by
        rw [hoffset, ← List.append_assoc, slice?_append]
      have hbehind : sliceFrom? (close + 1) (done ++ (method ++ behind)) = some behind := by
        rw [hoffset, ← List.append_assoc, sliceFrom?_append]
      rw [hend]
      simp only [Option.bind_some, hmethod, hbehind, methodRef?_eq]
      cases MethodRef.read method with
      | error bad => rfl
      | ok m =>
        cases CallShape.cutArgs? behind with
        | none => rfl
        | some args => rfl

/-- **The shape of an invocation** is read without a stop. -/
theorem shape?_eq (s : Text) : shape? s = some (CallShape.read? s) := by
  rw [shape?, CallShape.read?]
  cases cutAtChar? ' ' s with
  | none => rfl
  | some found =>
    obtain ⟨word, rest⟩ := found
    dsimp only
    cases CallKind.ofKeyword? word with
    | none => rfl
    | some kind => exact congrArg (Option.map _) (callRest?_eq s kind rest)

/-- At byte offsets, the arguments are separated as before. -/
theorem argTexts?_eq (shape : CallShape) : argTexts? shape = some shape.argTexts := by
  rw [argTexts?, CallShape.argTexts, splitTopLevel?_eq]
  split <;> rfl

/-! ### Values without arguments -/

/-- Reads a string literal: the text between the first and the last byte. -/
def string? (s : Text) : Option (Option Constant) :=
  if 2 ≤ Utf8.length s ∧ startsWith s "\"".toList ∧ endsWith s "\"".toList then do
    let chars ← topLevel? s
    if chars.isEmpty then do
      let last ← subtract? (Utf8.length s) 1
      let inner ← slice? 1 last s
      return some (.string (StringLiteral.unescape inner))
    else return none
  else return none

/-- Reads a constant. -/
def constant? (s : Text) : Option (Option Constant) :=
  if s = "null".toList then some (some .null)
  else do
    match ← string? s with
    | some c => return some c
    | none =>
      return (readClassConstant? s).or <| (readIntConstant? s).or <|
        (readLongConstant? s).or (readFloating? s)

/-- Reads a field reference that the last byte closes. -/
def closedField? (s : Text) : Option (Option FieldRef) := do
  let close ← referenceEnd? s 0
  let last ← subtract? (Utf8.length s) 1
  return if close = some last then FieldRef.read? s else none

/-- Reads a reference to a static field. -/
def staticField? (s : Text) : Option (Option Value) :=
  if startsWith s "<".toList then (closedField? s).map fun f => f.map .staticField
  else some none

/-- Reads a reference to a field of a local. -/
def instanceField? (s : Text) : Option (Option Value) :=
  match cutAt? ".<".toList s with
  | some (base, rest) =>
    if isLocalName base then (closedField? ('<' :: rest)).map fun f => f.map (.instanceField base)
    else some none
  | none => some none

/-- Reads a value that contains no other values. -/
def simple? (s : Text) : Option Value := do
  match ← constant? s with
  | some c => return .const c
  | none =>
    match readAlloc? s with
    | some v => return v
    | none =>
      match ← staticField? s with
      | some v => return v
      | none =>
        match ← instanceField? s with
        | some v => return v
        | none => return if isLocalName s then .var s else .verbatim s

/-- What is read of a text between two quotes. -/
theorem readString?_quoted (inner : Text) :
    readString? ("\"".toList ++ (inner ++ "\"".toList)) =
      if hasOutside .outside ("\"".toList ++ (inner ++ "\"".toList)) then none
      else some (.string (StringLiteral.unescape inner)) := by
  have hinner := stripSuffix?_append "\"".toList inner
  change readString? ('"' :: (inner ++ "\"".toList)) = _
  rw [readString?, hinner]
  rfl

/-- Nothing is read as a string without two quotes around it. -/
theorem readString?_eq_none_of_unquoted {s : Text}
    (h : ¬∃ inner, s = "\"".toList ++ (inner ++ "\"".toList)) : readString? s = none := by
  rw [readString?.eq_def]
  split
  · next rest =>
    cases hinner : stripSuffix? "\"".toList rest with
    | none => rfl
    | some inner =>
      have hrest := stripSuffix?_eq_some_iff.1 hinner
      exact (h ⟨inner, congrArg (List.cons '"') hrest⟩).elim
  · rfl

/-- A text of two bytes or more that begins and ends in a quote stands between two quotes. -/
theorem exists_quoted {s : Text} (hlength : 2 ≤ Utf8.length s)
    (hfront : startsWith s "\"".toList = true) (hback : endsWith s "\"".toList = true) :
    ∃ inner, s = "\"".toList ++ (inner ++ "\"".toList) := by
  obtain ⟨rest, hrest⟩ := Option.isSome_iff_exists.1 hfront
  obtain rfl := stripPrefix?_eq_some_iff.1 hrest
  obtain ⟨before, hbefore⟩ := Option.isSome_iff_exists.1 hback
  have heq := stripSuffix?_eq_some_iff.1 hbefore
  cases before with
  | nil =>
    rw [heq] at hlength
    exact absurd hlength (by decide)
  | cons c inner =>
    obtain ⟨-, hrest⟩ := List.cons.inj heq
    exact ⟨inner, congrArg ('"' :: ·) hrest⟩

/-- At byte offsets, a string is read as before. -/
theorem string?_eq (s : Text) : string? s = some (readString? s) := by
  have hquote : Utf8.length "\"".toList = 1 := rfl
  -- The slice exists exactly if the text begins and ends in two different quotes.
  by_cases hform : ∃ inner, s = "\"".toList ++ (inner ++ "\"".toList)
  · obtain ⟨inner, rfl⟩ := hform
    have hlength : Utf8.length ("\"".toList ++ (inner ++ "\"".toList)) =
        Utf8.length ("\"".toList ++ inner) + 1 := by
      rw [← List.append_assoc, Utf8.length_append, hquote]
    have hfront : startsWith ("\"".toList ++ (inner ++ "\"".toList)) "\"".toList = true := by
      rw [startsWith, stripPrefix?_append]
      rfl
    have hback : endsWith ("\"".toList ++ (inner ++ "\"".toList)) "\"".toList = true := by
      rw [endsWith, ← List.append_assoc, stripSuffix?_append]
      rfl
    have htwo : 2 ≤ Utf8.length ("\"".toList ++ (inner ++ "\"".toList)) := by
      rw [hlength, Utf8.length_append, hquote]
      omega
    have hslice : slice? 1 (Utf8.length ("\"".toList ++ inner))
        ("\"".toList ++ (inner ++ "\"".toList)) = some inner := by
      rw [← List.append_assoc]
      exact slice?_append "\"".toList inner "\"".toList
    rw [string?, if_pos ⟨htwo, hfront, hback⟩, topLevel?_eq, readString?_quoted, hlength,
      subtract?_add]
    simp only [Option.bind_eq_bind, Option.bind_some, isEmpty_outsideIndices, hslice]
    cases hasOutside .outside ("\"".toList ++ (inner ++ "\"".toList)) <;> rfl
  · have hno : ¬(2 ≤ Utf8.length s ∧ startsWith s "\"".toList ∧ endsWith s "\"".toList) := by
      rintro ⟨htwo, hfront, hback⟩
      exact hform (exists_quoted htwo hfront hback)
    rw [string?, if_neg hno, readString?_eq_none_of_unquoted hform]
    rfl

/-- At byte offsets, a constant is read as before. -/
theorem constant?_eq (s : Text) : constant? s = some (Constant.read? s) := by
  rw [constant?, Constant.read?, string?_eq]
  split
  · rfl
  · cases readString? s <;> rfl

/-- The counter of bytes has something to count down from. -/
theorem closedField?_cons (c : Char) (s : Text) :
    closedField? (c :: s) = some (readClosedField? (c :: s)) := by
  obtain ⟨last, hlast⟩ : ∃ last, Utf8.length (c :: s) = last + 1 := by
    have hpos := Utf8.width_pos c
    rw [Utf8.length_cons]
    exact ⟨Utf8.width c + Utf8.length s - 1, by omega⟩
  rw [closedField?, readClosedField?, hlast, subtract?_add]
  cases hclosed : cutClosed? 0 (c :: s) with
  | none =>
    have hend := referenceEnd?_of_none [] hclosed
    rw [List.nil_append, Utf8.length_nil] at hend
    rw [hend]
    rfl
  | some found =>
    obtain ⟨inner, behind⟩ := found
    obtain ⟨close, hend, hoffset⟩ := referenceEnd?_of_some [] hclosed
    rw [List.nil_append, Utf8.length_nil] at hend
    rw [List.nil_append] at hoffset
    have hsum : Utf8.length inner + Utf8.length behind = last + 1 := by
      rw [← Utf8.length_append, ← cutClosed?_eq_some hclosed, hlast]
    rw [hend]
    simp only [Option.bind_eq_bind, Option.bind_some, Option.some.injEq]
    cases behind with
    | nil =>
      rw [Utf8.length_nil] at hsum
      rw [if_pos (by omega)]
      rfl
    | cons d behind =>
      have hpos := Utf8.width_pos d
      rw [Utf8.length_cons] at hsum
      rw [if_neg (by omega)]
      rfl

/-- At byte offsets, a static field is read as before. -/
theorem staticField?_eq (s : Text) : staticField? s = some (readStaticField? s) := by
  cases s with
  | nil => rfl
  | cons c s =>
    rw [staticField?]
    by_cases hc : c = '<'
    · subst hc
      rw [closedField?_cons]
      rfl
    · have hfront : startsWith (c :: s) "<".toList = false := startsWith_of_head hc
      rw [hfront, if_neg Bool.false_ne_true, readStaticField?.eq_def]
      split
      · next heq => exact absurd (List.cons.inj heq).1 hc
      · rfl

/-- At byte offsets, a field of an object is read as before. -/
theorem instanceField?_eq (s : Text) : instanceField? s = some (readInstanceField? s) := by
  rw [instanceField?, readInstanceField?]
  cases cutAt? ".<".toList s with
  | none => rfl
  | some found =>
    obtain ⟨base, rest⟩ := found
    dsimp only
    rw [closedField?_cons]
    split <;> rfl

/-- **Values without arguments** are read without a stop. -/
theorem simple?_eq (s : Text) : simple? s = some (Value.readSimple s) := by
  rw [simple?, Value.readSimple, constant?_eq, staticField?_eq, instanceField?_eq]
  simp only [Option.bind_eq_bind, Option.bind_some]
  cases Constant.read? s with
  | some c => rfl
  | none =>
    cases readAlloc? s with
    | some v => rfl
    | none =>
      cases readStaticField? s with
      | some v => rfl
      | none =>
        cases readInstanceField? s with
        | some v => rfl
        | none => cases isLocalName s <;> rfl

/-! ### Values and invocations -/

mutual

/-- Reads a value; white space around it does not matter. -/
def value? (s : Text) : Option (Except ReadFault Value) :=
  match call? (trim s) with
  | none => none
  | some (.error why) => some (.error why)
  | some (.ok (some e)) => some (.ok (.call e))
  | some (.ok none) => (simple? (trim s)).map .ok
termination_by (s.length, 1)
decreasing_by
  have hlength := length_trim_le s
  rcases Nat.lt_or_eq_of_le hlength with h | h
  · exact Prod.Lex.left _ _ h
  · rw [h]; exact Prod.Lex.right _ (by decide)

/-- Reads an invocation; its arguments one after the other, up to the first that is none. -/
def call? (s : Text) : Option (Except ReadFault (Option Invocation)) :=
  match _h : shape? s with
  | none => none
  | some (.error why) => some (.error why)
  | some (.ok none) => some (.ok none)
  | some (.ok (some shape)) =>
    match _hargs : argTexts? shape with
    | none => none
    | some texts =>
      match texts.attach.mapM (m := ExceptT ReadFault Option) fun arg => value? arg.1 with
      | none => none
      | some (.error why) => some (.error why)
      | some (.ok args) =>
        some (.ok (some { kind := shape.kind, base := shape.base, method := shape.method, args }))
termination_by (s.length, 0)
decreasing_by
  have hshape := (shape?_eq s).symm.trans _h
  have hmem : arg.1 ∈ shape.argTexts := by
    rw [Option.some.inj ((argTexts?_eq shape).symm.trans _hargs)]
    exact arg.2
  have h₁ := CallShape.length_of_read? (Option.some.inj hshape)
  have h₂ := CallShape.length_of_mem_argTexts hmem
  exact Prod.Lex.left _ _ (by omega)

end

/-- Elements are read one after the other without a stop, if each of them is. -/
theorem mapM_eq_some {α β : Type} {f : α → Option (Except ReadFault β)}
    {g : α → Except ReadFault β} {xs : List α} (h : ∀ x ∈ xs, f x = some (g x)) :
    xs.mapM (m := ExceptT ReadFault Option) f = some (xs.mapM g) := by
  induction xs with
  | nil => rfl
  | cons x xs ih =>
    rw [List.forall_mem_cons] at h
    rw [List.mapM_cons, List.mapM_cons, h.1, ih h.2]
    cases g x with
    | error why => rfl
    | ok y => cases xs.mapM g <;> rfl

/-- Reading an invocation, with the arguments as a list of texts. -/
theorem read?_of_shape (s : Text) :
    Call.read? s = match CallShape.read? s with
      | .error why => .error why
      | .ok none => .ok none
      | .ok (some shape) =>
        match shape.argTexts.mapM Value.read with
        | .error why => .error why
        | .ok args =>
          .ok (some { kind := shape.kind, base := shape.base, method := shape.method, args }) := by
  rw [Call.read?]
  split
  next why hshape => rw [hshape]
  next hshape => rw [hshape]
  next shape hshape =>
    rewrite [hshape, List.mapM_subtype (g := Value.read) fun _ _ => rfl, List.unattach_attach]
    rfl

/-- The same at byte offsets. -/
theorem call?_of_shape (s : Text) :
    call? s = match CallShape.read? s with
      | .error why => some (.error why)
      | .ok none => some (.ok none)
      | .ok (some shape) =>
        match shape.argTexts.mapM (m := ExceptT ReadFault Option) value? with
        | none => none
        | some (.error why) => some (.error why)
        | some (.ok args) =>
          some (.ok (some
            { kind := shape.kind, base := shape.base, method := shape.method, args })) := by
  rw [call?]
  split
  next hshape =>
    rw [shape?_eq] at hshape
    cases hshape
  next why hshape =>
    rw [shape?_eq, Option.some.injEq] at hshape
    rw [hshape]
  next hshape =>
    rw [shape?_eq, Option.some.injEq] at hshape
    rw [hshape]
  next shape hshape =>
    rw [shape?_eq, Option.some.injEq] at hshape
    rw [hshape]
    split
    next hargs =>
      rw [argTexts?_eq] at hargs
      cases hargs
    next texts hargs =>
      rw [argTexts?_eq, Option.some.injEq] at hargs
      subst hargs
      have hmap : shape.argTexts.attach.mapM (m := ExceptT ReadFault Option)
          (fun arg => value? arg.1) =
            shape.argTexts.mapM (m := ExceptT ReadFault Option) value? := by
        rw [List.mapM_subtype (m := ExceptT ReadFault Option) (g := value?) fun _ _ => rfl,
          List.unattach_attach]
      rw [hmap]

/-- If the call in a text is read as before, so is the value. -/
theorem value?_of_call {s : Text} (h : call? (trim s) = some (Call.read? (trim s))) :
    value? s = some (Value.read s) := by
  rw [value?, Value.read, h, simple?_eq]
  cases Call.read? (trim s) with
  | error why => rfl
  | ok call => cases call <;> rfl

/-- **Invocations** are read without a stop. The arguments are shorter than the invocation. -/
theorem call?_eq (s : Text) : call? s = some (Call.read? s) := by
  induction hlength : s.length using Nat.strongRecOn generalizing s with
  | ind n ih =>
    rw [call?_of_shape, read?_of_shape]
    cases hshape : CallShape.read? s with
    | error why => rfl
    | ok shape? =>
      cases shape? with
      | none => rfl
      | some shape =>
        have hargs : ∀ arg ∈ shape.argTexts, value? arg = some (Value.read arg) := by
          intro arg harg
          have h₁ := CallShape.length_of_read? hshape
          have h₂ := CallShape.length_of_mem_argTexts harg
          have h₃ := length_trim_le arg
          exact value?_of_call (ih (trim arg).length (by omega) (trim arg) rfl)
        dsimp only
        rw [mapM_eq_some hargs]
        cases shape.argTexts.mapM Value.read <;> rfl

/-- **Values** are read without a stop. -/
theorem value?_eq (s : Text) : value? s = some (Value.read s) :=
  value?_of_call (call?_eq (trim s))

/-! ### Statements -/

/-- Reads an assignment, cut at an offset, or keeps the text as it stands. -/
def assignment? (s : Text) : Option (Except ReadFault Stmt) := do
  match ← findTopLevel? " = ".toList s with
  | none => return .ok (.verbatim s)
  | some offset =>
    let left ← sliceTo? offset s
    let right ← sliceFrom? (offset + 3) s
    match ← value? left with
    | .error why => return .error why
    | .ok left =>
      match ← value? right with
      | .error why => return .error why
      | .ok right => return .ok (.assign left right)

/-- Reads a statement that is no return. -/
def effect? (s : Text) : Option (Except ReadFault Stmt) :=
  match identityParts? s with
  | some (name, source, ty) =>
    some do
      let ty ← readIdentityType ty
      let rhs ← IdentityRhs.ofParts source ty
      return .identity name rhs
  | none => do
    match ← call? s with
    | .error why => return .error why
    | .ok (some e) => return .ok (.invoke e)
    | .ok none => assignment? s

/-- Reads a statement without its semicolon. -/
def stmt? (s : Text) : Option (Except ReadFault Stmt) :=
  if s = "return".toList then some (.ok (.ret none))
  else
    match stripPrefix? "return ".toList s with
    | some value => (value? value).map fun v => v.map fun v => .ret (some v)
    | none => effect? s

/-- At byte offsets, an assignment is read as before. -/
theorem assignment?_eq (s : Text) : assignment? s = some (Stmt.readAssign s) := by
  rw [assignment?, Stmt.readAssign, findTopLevel?_eq]
  cases hcut : cutOutside? " = ".toList .outside s with
  | none => rfl
  | some found =>
    obtain ⟨left, right⟩ := found
    obtain rfl := cutOutside?_eq_some hcut
    have hleft : sliceTo? (Utf8.length left) (left ++ " = ".toList ++ right) = some left := by
      rw [List.append_assoc, sliceTo?_append]
    have hright : sliceFrom? (Utf8.length left + 3) (left ++ " = ".toList ++ right) =
        some right := by
      have hwidth : Utf8.length (left ++ " = ".toList) = Utf8.length left + 3 :=
        Utf8.length_append left " = ".toList
      rw [← hwidth, sliceFrom?_append]
    simp only [Option.bind_eq_bind, Option.bind_some, Option.map_some, hleft, hright, value?_eq]
    cases Value.read left with
    | error why => rfl
    | ok v => cases Value.read right <;> rfl

/-- At byte offsets, a statement without a result is read as before. -/
theorem effect?_eq (s : Text) : effect? s = some (Stmt.readEffect s) := by
  rw [effect?, Stmt.readEffect]
  cases identityParts? s with
  | some parts => rfl
  | none =>
    rw [call?_eq, assignment?_eq]
    cases Call.read? s with
    | error why => rfl
    | ok call => cases call <;> rfl

/-- **Statements** are read without a stop. -/
theorem stmt?_eq (s : Text) : stmt? s = some (Stmt.read s) := by
  rw [stmt?, Stmt.read]
  split
  · rfl
  · cases stripPrefix? "return ".toList s with
    | some value => exact congrArg (Option.map _) (value?_eq value)
    | none => exact effect?_eq s

end Weaver.ByteReader
