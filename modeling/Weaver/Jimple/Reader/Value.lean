import Weaver.Jimple.Fault
import Weaver.Jimple.Reader.Word
import Weaver.Jimple.Value

/-!
# Reading Values

The reader tries the forms of a value in turn; what fits none of them is kept in its
written form. Arguments of an invocation are shorter than the invocation, which is why
reading ends.

## Main definitions

* `CallShape.read?`: an invocation with its arguments still unread.
* `Value.read`, `Call.read?`: reading values and invocations.
-/

namespace Weaver

/-! ### The shape of an invocation -/

/-- An invocation whose arguments have not been read. -/
structure CallShape where
  kind : CallKind
  base : Option Text
  method : MethodRef
  /-- The text between the parentheses. -/
  args : Text

namespace CallShape

/-- The receiver of an invocation and the text from its method on. The receiver stands
before the first dot in front of a bracket; static invocations have none. -/
def cutBase? (kind : CallKind) (s : Text) : Option (Option Text × Text) :=
  match kind with
  | .static => some (none, s)
  | _ => (Text.cutAt? ".<".toList s).map fun (base, rest) => (some (Text.trim base), '<' :: rest)

/-- The text between the parentheses around the arguments. -/
def cutArgs? (s : Text) : Option Text :=
  (Text.stripPrefix? "(".toList (Text.trim s)).bind (Text.stripSuffix? ")".toList)

/-- Reads what follows the keyword of an invocation; `whole` is the text that a complaint
cites. -/
def readRest (whole : Text) (kind : CallKind) (s : Text) : Except ReadFault CallShape :=
  match cutBase? kind s with
  | none => .error (.invocation whole)
  | some (base, rest) =>
    match Text.cutClosed? 0 rest with
    | none => .error (.invocation whole)
    | some (method, rest) =>
      match MethodRef.read method with
      | .error bad => .error (.reference bad)
      | .ok method =>
        match cutArgs? rest with
        | none => .error (.invocation whole)
        | some args => .ok { kind, base, method, args }

/-- Reads an invocation up to its arguments; a text that does not begin with the keyword
of one is none. -/
def read? (s : Text) : Except ReadFault (Option CallShape) :=
  match Text.cutAtChar? ' ' s with
  | none => .ok none
  | some (word, rest) =>
    match CallKind.ofKeyword? word with
    | none => .ok none
    | some kind => (readRest s kind rest).map some

/-- What stands behind the receiver is no longer than the text. -/
theorem length_of_cutBase? {kind : CallKind} {s rest : Text} {base : Option Text}
    (h : cutBase? kind s = some (base, rest)) : rest.length ≤ s.length := by
  have hp : ".<".toList.length = 2 := rfl
  unfold cutBase? at h
  split at h
  · simp_all
  · obtain ⟨⟨b, r⟩, hb, heq⟩ := Option.map_eq_some_iff.1 h
    simp only [Prod.mk.injEq] at heq
    obtain ⟨-, rfl⟩ := heq
    have := Text.length_of_cutAt? hb
    simp only [List.length_cons]
    omega

/-- The arguments are shorter than the text with their parentheses. -/
theorem length_of_cutArgs? {s args : Text} (h : cutArgs? s = some args) :
    args.length < s.length := by
  have hp : "(".toList.length = 1 := rfl
  have ht := Text.length_trim_le s
  obtain ⟨inner, hi, hargs⟩ := Option.bind_eq_some_iff.1 h
  have h₁ := Text.length_of_stripPrefix? hi
  have h₂ := Text.length_of_stripSuffix? hargs
  omega

/-- The arguments of a call are shorter than what stands behind its keyword. -/
theorem length_of_readRest {whole s : Text} {kind : CallKind} {shape : CallShape}
    (h : readRest whole kind s = .ok shape) : shape.args.length < s.length := by
  unfold readRest at h
  split at h
  · cases h
  · next base rest hbase =>
    split at h
    · cases h
    · next method rest' hclosed =>
      split at h
      · cases h
      · split at h
        · cases h
        · next args hargs =>
          cases h
          have h₁ := length_of_cutBase? hbase
          have h₂ := Text.length_of_cutClosed? hclosed
          have h₃ := length_of_cutArgs? hargs
          simp only
          omega

/-- The arguments of an invocation are shorter than the invocation. -/
theorem length_of_read? {s : Text} {shape : CallShape} (h : read? s = .ok (some shape)) :
    shape.args.length < s.length := by
  unfold read? at h
  split at h
  · cases h
  · next word rest hcut =>
    split at h
    · cases h
    · next kind _ =>
      cases hr : readRest s kind rest with
      | error e => simp [hr, Except.map] at h
      | ok shape' =>
        simp only [hr, Except.map, Except.ok.injEq, Option.some.injEq] at h
        subst h
        have h₁ := length_of_readRest hr
        have h₂ := Text.length_of_cutAtChar? hcut
        omega

/-- The arguments one by one; blanks alone are no argument. -/
def argTexts (shape : CallShape) : List Text :=
  if Text.trim shape.args = [] then [] else Text.splitOutside ',' .outside shape.args

/-- No argument is longer than all of them together. -/
theorem length_of_mem_argTexts {shape : CallShape} {s : Text} (h : s ∈ shape.argTexts) :
    s.length ≤ shape.args.length := by
  unfold argTexts at h
  split at h
  · cases h
  · exact Text.length_le_of_mem_splitOutside h

end CallShape

/-! ### Constants and references -/

/-- Reads a string literal: quotes around a text that has nothing outside literals and
references. -/
def readString? (s : Text) : Option Constant :=
  match s with
  | '"' :: rest =>
    match Text.stripSuffix? "\"".toList rest with
    | some inner =>
      if Text.hasOutside .outside s then none else some (.string (StringLiteral.unescape inner))
    | none => none
  | _ => none

/-- Reads a class constant. -/
def readClassConstant? (s : Text) : Option Constant :=
  ((Text.stripPrefix? "class \"".toList s).bind (Text.stripSuffix? "\"".toList)).map .class_

/-- Reads an integer constant that fits 32 bits. -/
def readIntConstant? (s : Text) : Option Constant :=
  match readInt? s with
  | some n => if fitsSigned 32 n then some (.int (Int32.ofInt n)) else none
  | none => none

/-- Reads a long constant that fits 64 bits. -/
def readLongConstant? (s : Text) : Option Constant :=
  match (longDigits? s).bind readInt? with
  | some n => if fitsSigned 64 n then some (.long (Int64.ofInt n)) else none
  | none => none

/-- Reads a floating-point constant. -/
def readFloating? (s : Text) : Option Constant :=
  if isFloatText s then some (.float s)
  else if isDoubleText s then some (.double s)
  else none

/-- Reads a constant. -/
def Constant.read? (s : Text) : Option Constant :=
  if s = "null".toList then some .null
  else
    (readString? s).or <| (readClassConstant? s).or <| (readIntConstant? s).or <|
      (readLongConstant? s).or (readFloating? s)

/-- Reads an allocation. -/
def readAlloc? (s : Text) : Option Value :=
  match (Text.stripPrefix? "new ".toList s).bind Ty.read? with
  | some (.ref cls) => some (.alloc cls)
  | _ => none

/-- Reads a field reference that a bracket opens and the last character closes. -/
def readClosedField? (s : Text) : Option FieldRef :=
  match Text.cutClosed? 0 s with
  | some (_, []) => FieldRef.read? s
  | _ => none

/-- Reads a reference to a static field. -/
def readStaticField? (s : Text) : Option Value :=
  match s with
  | '<' :: _ => (readClosedField? s).map .staticField
  | _ => none

/-- Reads a reference to a field of a local. -/
def readInstanceField? (s : Text) : Option Value :=
  match Text.cutAt? ".<".toList s with
  | some (base, rest) =>
    if isLocalName base then (readClosedField? ('<' :: rest)).map (.instanceField base) else none
  | none => none

/-- Reads a value that contains no other values. -/
def Value.readSimple (s : Text) : Value :=
  ((Constant.read? s).map .const).or ((readAlloc? s).or <| (readStaticField? s).or <|
    (readInstanceField? s).or <| if isLocalName s then some (.var s) else none)
  |>.getD (.verbatim s)

/-! ### Values and invocations -/

mutual

/-- Reads a value; white space around it does not matter. -/
def Value.read (s : Text) : Except ReadFault Value :=
  match Call.read? (Text.trim s) with
  | .error why => .error why
  | .ok (some e) => .ok (.call e)
  | .ok none => .ok (Value.readSimple (Text.trim s))
termination_by (s.length, 1)
decreasing_by
  have := Text.length_trim_le s
  rcases Nat.lt_or_eq_of_le this with h | h
  · exact Prod.Lex.left _ _ h
  · rw [h]; exact Prod.Lex.right _ (by decide)

/-- Reads an invocation; a text that does not begin with the keyword of one is none. -/
def Call.read? (s : Text) : Except ReadFault (Option Invocation) :=
  match _h : CallShape.read? s with
  | .error why => .error why
  | .ok none => .ok none
  | .ok (some shape) =>
    match shape.argTexts.attach.mapM fun arg => Value.read arg.1 with
    | .error why => .error why
    | .ok args =>
      .ok (some { kind := shape.kind, base := shape.base, method := shape.method, args })
termination_by (s.length, 0)
decreasing_by
  have h₁ := CallShape.length_of_read? _h
  have h₂ := CallShape.length_of_mem_argTexts arg.2
  exact Prod.Lex.left _ _ (by omega)

end

end Weaver
