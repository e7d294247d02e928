import Mathlib.Data.List.Basic
import Weaver.Proofs.Jimple.RoundTrip.Operand

/-!
# Reading Back Invocations

The reader of an invocation takes the keyword, the receiver, the method and the arguments
off the front, one after the other. The method ends at the bracket that closes its
reference, and commas inside literals and references separate no arguments, so that the
arguments may contain any string.

## Main results

* `CallShape.read?_text`: keyword, receiver and method are read back.
* `Call.read?_text`: invocations are read back, **whatever strings their arguments contain**.
* `Value.IsSource.read_text`: the right-hand sides of assignments are read back.
-/

namespace Weaver

/-! ### References to methods -/

/-- What stands between the brackets of a method reference. -/
def MethodRef.inner (m : MethodRef) : Text :=
  m.cls.chars ++ ": ".toList ++ m.sig.text

/-- The reference stands between angle brackets. -/
theorem MethodRef.text_eq (m : MethodRef) : m.text = '<' :: m.inner ++ ['>'] := by
  simp [text, inner]

/-- The name of a class is balanced: it has no brackets. -/
theorem ClassName.WellFormed.balanced {c : ClassName} (h : c.WellFormed) :
    Text.Balanced c.chars :=
  Text.balanced_of_forall fun d hd =>
    ⟨ne_of_isNameChar (h.chars d hd) rfl, ne_of_isNameChar (h.chars d hd) rfl⟩

/-- The written form of a type has no angle brackets. -/
theorem Ty.WellFormed.no_brackets {ty : Ty} (h : ty.WellFormed) :
    ∀ c ∈ ty.text, c ≠ '<' ∧ c ≠ '>' := by
  intro c hc
  constructor
  · rintro rfl
    exact h.not_mem rfl hc
  · rintro rfl
    exact h.not_mem rfl hc

/-- The name of a method is balanced, `<init>` and `<clinit>` included. -/
theorem IsMethodName.balanced {name : Text} (h : IsMethodName name) : Text.Balanced name := by
  have hbrackets : ∀ {s : Text}, (∀ c ∈ s, c ≠ '<' ∧ c ≠ '>') → Text.Balanced ('<' :: s ++ ['>']) :=
    fun hs => (Text.balanced_of_forall hs).brackets
  obtain h | rfl | rfl := h
  · exact Text.balanced_of_forall fun c hc =>
      ⟨ne_of_isNameChar (h.isNameChar c hc) rfl, ne_of_isNameChar (h.isNameChar c hc) rfl⟩
  · exact hbrackets (s := "init".toList) (by decide)
  · exact hbrackets (s := "clinit".toList) (by decide)

/-- The brackets of an initializer's name close each other within the reference. -/
theorem MethodRef.WellFormed.balanced {m : MethodRef} (h : m.WellFormed) :
    Text.Balanced m.inner := by
  have hplain : ∀ {s : Text}, (∀ c ∈ s, c ≠ '<' ∧ c ≠ '>') → Text.Balanced s :=
    Text.balanced_of_forall
  have hparams : ∀ c ∈ '(' :: Text.join ",".toList (m.sig.params.map Ty.text) ++ ")".toList,
      c ≠ '<' ∧ c ≠ '>' := by
    have hcomma : ∀ c ∈ ",".toList, c ≠ '<' ∧ c ≠ '>' := by decide
    have hclose : ∀ c ∈ ")".toList, c ≠ '<' ∧ c ≠ '>' := by decide
    intro c hc
    rw [List.cons_append, List.mem_cons, List.mem_append] at hc
    obtain rfl | hc | hc := hc
    · decide
    · obtain hc | ⟨t, ht, hc⟩ := Text.mem_join hc
      · exact hcomma c hc
      · obtain ⟨ty, hty, rfl⟩ := List.mem_map.1 ht
        exact (h.sig.params ty hty).no_brackets c hc
    · exact hclose c hc
  have hform : m.inner = m.cls.chars ++ ": ".toList ++ m.sig.ret.text ++ [' '] ++ m.sig.name ++
      ('(' :: Text.join ",".toList (m.sig.params.map Ty.text) ++ ")".toList) := by
    simp [inner, Signature.text]
  rw [hform]
  exact ((((h.cls.balanced.append (hplain (by decide))).append
    (hplain h.sig.ret.no_brackets)).append (hplain (by decide))).append
      h.sig.name.balanced).append (hplain hparams)

/-! ### The shape of an invocation -/

/-- The written form of what is invoked. -/
def Call.target (e : Invocation) : Text :=
  match e.base with
  | some base => base ++ '.' :: e.method.text
  | none => e.method.text

/-- The written form of the arguments. -/
def Call.argsText (e : Invocation) : Text :=
  Text.join ", ".toList (e.args.map Value.text)

/-- An invocation is its keyword, what is invoked and the arguments in brackets. -/
theorem Call.text_eq (e : Invocation) :
    e.text = e.kind.keyword ++ ' ' :: (e.target ++ ('(' :: e.argsText ++ ")".toList)) := by
  obtain ⟨kind, base, method, args⟩ := e
  cases base <;> simp [text, render, target, argsText]

namespace CallShape

/-- **The receiver is cut off the method.** -/
theorem cutBase?_target {e : Invocation} (h : e.WellFormed) (rest : Text) :
    cutBase? e.kind (e.target ++ rest) = some (e.base, e.method.text ++ rest) := by
  have hstatic := h.static
  have hlocal := h.base
  rw [Call.target]
  cases hbase : e.base with
  | none =>
    rw [hstatic.1 hbase]
    rfl
  | some base =>
    have hb : IsLocal base := hlocal base (by rw [hbase]; rfl)
    have hkind : e.kind ≠ .static := by
      intro hk
      rw [hstatic.2 hk] at hbase
      cases hbase
    have hcut : Text.cutAt? ".<".toList (base ++ '.' :: e.method.text ++ rest) =
        some (base, e.method.inner ++ ['>'] ++ rest) := by
      have := Text.cutAt?_append (p := ['<']) hb.not_mem_point (e.method.inner ++ ['>'] ++ rest)
      rw [e.method.text_eq]
      simpa using this
    have htrim : Text.trim base = base := hb.isWord.isTight.trim_eq
    unfold cutBase?
    split
    next hk => exact absurd hk hkind
    · rw [hcut, e.method.text_eq]
      simp [htrim]

/-- The arguments are cut out of their brackets. -/
theorem cutArgs?_brackets (args : Text) : cutArgs? ('(' :: args ++ ")".toList) = some args := by
  have hopen : Text.IsTight ['('] := Text.isTight_of_forall (by decide) (by decide)
  have hclose : Text.IsTight [')'] := Text.isTight_of_forall (by decide) (by decide)
  have htrim : Text.trim ('(' :: args ++ ")".toList) = "(".toList ++ (args ++ ")".toList) :=
    (hopen.append args hclose).trim_eq
  rw [cutArgs?, htrim, Text.stripPrefix?_append, Option.bind_some, Text.stripSuffix?_append]

/-- **What follows the keyword is read back**: receiver, method and arguments. -/
theorem readRest_text {e : Invocation} (h : e.WellFormed) (whole : Text) :
    readRest whole e.kind (e.target ++ ('(' :: e.argsText ++ ")".toList)) =
      .ok ⟨e.kind, e.base, e.method, e.argsText⟩ := by
  have hclosed : Text.cutClosed? 0 (e.method.text ++ ('(' :: e.argsText ++ ")".toList)) =
      some (e.method.text, '(' :: e.argsText ++ ")".toList) := by
    rw [e.method.text_eq]
    exact Text.cutClosed?_brackets h.method.balanced _
  rw [readRest, cutBase?_target h]
  simp only [hclosed, MethodRef.read_text h.method, cutArgs?_brackets]

/-- **Keyword, receiver and method are read back**, and the arguments are what remains. -/
theorem read?_text {e : Invocation} (h : e.WellFormed) :
    read? e.text = .ok (some ⟨e.kind, e.base, e.method, e.argsText⟩) := by
  rw [read?, e.text_eq, Text.cutAtChar?_append (CallKind.not_mem_keyword rfl e.kind)]
  simp only [CallKind.ofKeyword?_keyword, readRest_text h]
  rfl

end CallShape

/-! ### Arguments -/

/-- Reading depends on what remains without the white space around the text. -/
theorem Value.read_of_trim {s t : Text} (htrim : Text.trim s = t) (h : IsNoCall t) :
    Value.read s = .ok (readSimple t) := by
  rw [Value.read, htrim, h.read?]

/-- White space in front of an operand does not matter. -/
theorem Value.IsOperand.read_append {v : Value} (h : v.IsOperand) {pad : Text}
    (hpad : ∀ c ∈ pad, isBlank c = true) : Value.read (pad ++ v.text) = .ok v := by
  have htrim : Text.trim (pad ++ v.text) = v.text := by
    rw [Text.trim_append hpad, h.text_spec.tight.trim_eq]
  rw [Value.read_of_trim htrim h.text_spec.noCall, h.readSimple_text]

/-- **Operands are read back.** -/
theorem Value.IsOperand.read_text {v : Value} (h : v.IsOperand) : Value.read v.text = .ok v := by
  have hpad : ∀ c ∈ ([] : Text), isBlank c = true := by decide
  exact h.read_append hpad

/-- The arguments of an invocation: the first one, and the others with a space in front. -/
theorem CallShape.argTexts_text {e : Invocation} (h : e.WellFormed) (kind : CallKind)
    (base : Option Text) (method : MethodRef) :
    argTexts ⟨kind, base, method, e.argsText⟩ =
      match e.args.map Value.text with
      | [] => []
      | s :: rest => s :: rest.map (' ' :: ·) := by
  obtain ⟨kind', base', method', vs⟩ := e
  have hargs : ∀ v ∈ vs, v.IsOperand := h.args
  rw [argTexts, Call.argsText]
  cases vs with
  | nil => rfl
  | cons v vs =>
    rw [List.forall_mem_cons] at hargs
    obtain ⟨c, s, hs, hc⟩ := hargs.1.text_spec.tight.head
    have hmem : c ∈ Text.join ", ".toList (v.text :: vs.map Value.text) := by
      cases vs <;> simp [Text.join, hs]
    have htrim : Text.trim (Text.join ", ".toList (v.text :: vs.map Value.text)) ≠ [] :=
      List.ne_nil_of_mem (Text.mem_trim_of_mem hmem hc)
    have hcommas : ∀ t ∈ v.text :: vs.map Value.text, Text.Opaque (fun c => c != ',') t := by
      rw [List.forall_mem_cons]
      refine ⟨hargs.1.text_spec.inside, fun t ht => ?_⟩
      obtain ⟨w, hw, rfl⟩ := List.mem_map.1 ht
      exact (hargs.2 w hw).text_spec.inside
    rw [List.map_cons, if_neg htrim, Text.splitOutside_join hcommas]

/-- Arguments that are written behind commas are read back. -/
theorem Value.mapM_read_text {vs : List Value} (h : ∀ v ∈ vs, v.IsOperand) :
    ((vs.map Value.text).map (' ' :: ·)).mapM Value.read = .ok vs := by
  have hpad : ∀ c ∈ [' '], isBlank c = true := by decide
  induction vs with
  | nil => rfl
  | cons v vs ih =>
    rw [List.forall_mem_cons] at h
    have hread : Value.read (' ' :: v.text) = .ok v := h.1.read_append hpad
    rw [List.map_cons, List.map_cons, List.mapM_cons, hread, ih h.2]
    rfl

/-- **Invocations are read back**, whatever strings their arguments contain. -/
theorem Call.read?_text {e : Invocation} (h : e.WellFormed) : Call.read? e.text = .ok (some e) := by
  have hshape := CallShape.read?_text h
  have hread : (CallShape.argTexts ⟨e.kind, e.base, e.method, e.argsText⟩).mapM Value.read =
      .ok e.args := by
    have hargs := h.args
    rw [CallShape.argTexts_text h]
    cases hvs : e.args with
    | nil => rfl
    | cons v vs =>
      rw [hvs, List.forall_mem_cons] at hargs
      have hfirst : Value.read v.text = .ok v := hargs.1.read_text
      rw [List.map_cons, List.mapM_cons, hfirst, Value.mapM_read_text hargs.2]
      rfl
  rw [Call.read?]
  split
  next why hwhy => rw [hshape] at hwhy; cases hwhy
  next hnone => rw [hshape] at hnone; cases hnone
  next shape hsome =>
    rw [hshape, Except.ok.injEq, Option.some.injEq] at hsome
    subst hsome
    rw [List.mapM_subtype (g := Value.read) fun _ _ => rfl, List.unattach_attach, hread]

/-! ### Right-hand sides -/

/-- The written form of an invocation has no blanks at its ends. -/
theorem Call.isTight_text (e : Invocation) : Text.IsTight e.text := by
  obtain ⟨⟨c, rest, hc, -⟩, hletters⟩ := e.kind.keyword_spec
  have hblank : isBlank c = false :=
    isBlank_eq_false_of_isAlpha (hletters c (hc ▸ List.mem_cons_self))
  rw [e.text_eq, hc]
  refine ⟨⟨c, _, rfl, hblank⟩, ?_⟩
  exact ⟨c :: rest ++ ' ' :: (e.target ++ '(' :: e.argsText), ')', by simp, rfl⟩

/-- **The right-hand sides of assignments are read back.** -/
theorem Value.IsSource.read_text {v : Value} (h : v.IsSource) : Value.read v.text = .ok v := by
  obtain h | ⟨e, rfl, h⟩ | ⟨code, rfl, h⟩ := h
  · exact h.read_text
  · rw [Value.text_call, Value.read, (Call.isTight_text e).trim_eq, Call.read?_text h]
  · rw [text, Value.read_of_trim h.trimmed h.noCall, h.other]

end Weaver
