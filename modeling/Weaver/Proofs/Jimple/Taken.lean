import Weaver.Proofs.Jimple.RoundTrip.Body
import Weaver.Jimple.Reader.Class

/-!
# Lines That Bodies Are Read From

Every body that a reader gives, on its own or as part of a class, was taken from some of the
lines of its text, one after the other. What a reader ensures of a body is therefore an
induction over the lines that were taken.

## Main definitions

* `Line.Counts`: what is known of the lines of a text.
* `Body.TakenFrom`: a body and the lines it was read from.

## Main results

* `counts_of_mem_significantLines`: lines that are read count.
* `Body.takenFrom_of_read`, `Class.takenFrom_of_read`: **what was read was taken from lines**.
-/

namespace Weaver

/-! ### Lines -/

/-- A line that counts: it is one line, without white space around it, and neither blank nor
a comment. -/
structure Line.Counts (line : Line) : Prop where
  noFeed : '\n' ∉ line.text
  trimmed : Text.trim line.text = line.text
  significant : isSignificant line.text = true

namespace Text

/-- What is left of a text between separators has none. -/
theorem not_mem_of_mem_splitOn {c : Char} {s piece : Text} (h : piece ∈ splitOn c s) :
    c ∉ piece := by
  induction s generalizing piece with
  | nil =>
    obtain rfl := List.mem_singleton.1 h
    exact List.not_mem_nil
  | cons d s ih =>
    rw [splitOn, splitBy] at h
    split at h
    · obtain rfl | h := List.mem_cons.1 h
      · exact List.not_mem_nil
      · exact ih h
    next hd =>
      have hne : c ≠ d := fun hc => hd (by rw [hc]; exact beq_self_eq_true d)
      split at h
      · obtain rfl := List.mem_singleton.1 h
        simpa using hne
      next first rest hsplit =>
        have ih : ∀ piece ∈ first :: rest, c ∉ piece := fun piece hpiece =>
          ih (by rw [splitOn, hsplit]; exact hpiece)
        rw [List.forall_mem_cons] at ih
        obtain rfl | h := List.mem_cons.1 h
        · rw [List.mem_cons, not_or]
          exact ⟨hne, ih.1⟩
        · exact ih.2 piece h

/-- No line has a line break inside. -/
theorem not_mem_of_mem_lines {s l : Text} (h : l ∈ lines s) : '\n' ∉ l := by
  have hpieces : ∀ pieces : List Text, (∀ p ∈ pieces, '\n' ∉ p) →
      ∀ l ∈ linesOfPieces pieces, '\n' ∉ l := by
    intro pieces hp
    induction pieces with
    | nil => simp [linesOfPieces]
    | cons p pieces ih =>
      rw [List.forall_mem_cons] at hp
      have hdrop : '\n' ∉ dropCarriageReturn p := by
        intro hc
        unfold dropCarriageReturn at hc
        cases hstrip : stripSuffix? ['\r'] p with
        | none => exact hp.1 (by simpa [hstrip] using hc)
        | some before =>
          rw [hstrip] at hc
          exact hp.1 (stripSuffix?_eq_some_iff.1 hstrip ▸ List.mem_append_left _ hc)
      cases pieces with
      | nil =>
        rw [linesOfPieces]
        split
        · simp
        · simpa using hp.1
      | cons q pieces =>
        rw [linesOfPieces, List.forall_mem_cons]
        · exact ⟨hdrop, ih hp.2⟩
        · simp
  exact hpieces _ (fun p hp => not_mem_of_mem_splitOn hp) l h

end Text

/-- **Lines that are read** count. -/
theorem counts_of_mem_significantLines {s : Text} {line : Line} (h : line ∈ significantLines s) :
    line.Counts := by
  have hmem := List.mem_map_of_mem h (f := Line.text)
  rw [significantLines, significantFrom_text, List.mem_filter, List.mem_map] at hmem
  obtain ⟨⟨raw, hraw, htext⟩, hcount⟩ := hmem
  rw [← htext] at hcount
  have hfeed := Text.not_mem_of_mem_lines hraw
  have hline : '\n' ∉ line.text := fun hc => hfeed (Text.mem_of_mem_trim (htext ▸ hc))
  exact ⟨hline, htext ▸ Text.trim_trim raw, htext ▸ hcount⟩

/-! ### Bodies -/

/-- The body of the method `m` was taken from some of the lines. -/
def Body.TakenFrom (lines : List Line) (m : MethodRef) (b : Body) : Prop :=
  ∃ taken r, taken ⊆ lines ∧ BodyReading.Takes (.start m) taken r ∧ r.body = b

namespace Body

/-- The lines of a body are taken one after the other. -/
theorem takes_of_readLines {r : BodyReading} {lines : List Line} {b : Body}
    (h : readLines r lines = .ok b) : ∃ r', r.Takes lines r' ∧ r'.body = b := by
  induction lines generalizing r with
  | nil =>
    rw [readLines] at h
    split at h
    · cases h
    · exact ⟨r, .nil r, Except.ok.inj h⟩
  | cons line rest ih =>
    rw [readLines] at h
    split at h
    · cases h
    next hopen =>
      split at h
      · cases h
      next r₁ hstep =>
        obtain ⟨r', htakes, hb⟩ := ih h
        exact ⟨r', .cons (Bool.eq_false_iff.2 hopen) hstep htakes, hb⟩

/-- The lines of a body in braces are taken up to the closing one. -/
theorem takes_of_readBraced {last : Nat} {r : BodyReading} {lines : List Line} {b : Body}
    (h : readBraced last r lines = .ok b) :
    ∃ taken r', taken ⊆ lines ∧ r.Takes taken r' ∧ r'.body = b := by
  induction lines generalizing r with
  | nil => cases h
  | cons line rest ih =>
    unfold readBraced at h
    split at h
    · split at h
      · exact ⟨[], r, List.nil_subset _, .nil r, Except.ok.inj h⟩
      · cases h
    next hopen =>
      split at h
      · cases h
      next r₁ hstep =>
        obtain ⟨taken, r', hsub, htakes, hb⟩ := ih h
        exact ⟨line :: taken, r', List.cons_subset_cons line hsub,
          .cons (Bool.eq_false_iff.2 hopen) hstep htakes, hb⟩

/-- **A body on its own** was taken from lines of its text. -/
theorem takenFrom_of_read {method s : Text} {b : Body} (h : Body.read method s = .ok b) :
    ∃ m, MethodRef.read method = .ok m ∧ b.TakenFrom (significantLines s) m := by
  unfold Body.read at h
  split at h
  · cases h
  next m hmethod =>
    refine ⟨m, hmethod, ?_⟩
    dsimp only at h
    split at h
    · exact ⟨[], .start m, List.nil_subset _, .nil _, Except.ok.inj h⟩
    next first rest hlines =>
      split at h
      · obtain ⟨taken, r, hsub, htakes, hb⟩ := takes_of_readBraced h
        exact ⟨taken, r, hlines ▸ List.subset_cons_of_subset first hsub, htakes, hb⟩
      · obtain ⟨r, htakes, hb⟩ := takes_of_readLines h
        exact ⟨_, r, List.Subset.refl _, htakes, hb⟩

end Body

/-! ### Classes -/

namespace ClassReading

/-- The bodies of all methods read so far were taken from some of the lines, and so was what
has been read of the body of the next one. -/
structure Follows (lines : List Line) (r : ClassReading) : Prop where
  methods : ∀ m ∈ r.cls.methods, ∀ b, m.body = some b → b.TakenFrom lines (r.cls.refTo m.sig)
  phase : ∀ m b, r.phase = .body m b →
    ∃ taken ⊆ lines, BodyReading.Takes (.start (r.cls.refTo m.sig)) taken b

variable {lines : List Line} {r r' : ClassReading}

/-- A method whose body is taken from the lines may be added. -/
theorem Follows.addMethod (h : r.Follows lines) {m : Method}
    (hm : ∀ b, m.body = some b → b.TakenFrom lines (r.cls.refTo m.sig)) :
    (r.addMethod m).Follows lines where
  methods := by
    intro m' hm'
    rw [ClassReading.addMethod, List.mem_append, List.mem_singleton] at hm'
    obtain hm' | rfl := hm'
    · exact h.methods m' hm'
    · exact hm
  phase _ _ heq := by cases heq

/-- A change of phase. -/
theorem Follows.enter (h : r.Follows lines) {phase : ClassPhase}
    (hphase : ∀ m b, phase = .body m b →
      ∃ taken ⊆ lines, BodyReading.Takes (.start (r.cls.refTo m.sig)) taken b) :
    Follows lines { r with phase } where
  methods := h.methods
  phase := hphase

/-- An opening brace leads on to the next phase. -/
theorem openBrace_eq_ok {line : Text} {next r : ClassReading} (h : openBrace line next = .ok r) :
    r = next := by
  unfold openBrace at h
  split at h
  · exact (Except.ok.inj h).symm
  · cases h

/-- Headers of methods come without a body. -/
theorem body_eq_none_of_readHeader {line : Text} {m : Method} {hasBody : Bool}
    (h : Method.readHeader line = .ok (m, hasBody)) : m.body = none := by
  have hparts : ∀ {line decl : Text} {m : Method}, Method.readParts line decl = .ok m →
      m.body = none := by
    intro line decl m h
    unfold Method.readParts at h
    split at h
    · cases h
    · split at h
      · split at h
        · cases h
        · split at h
          · cases h
          · exact Except.ok.inj h ▸ rfl
      · cases h
  unfold Method.readHeader at h
  split at h
  · next decl _ =>
    cases hp : Method.readParts line decl with
    | error why => simp [hp, Except.map] at h
    | ok m' =>
      rw [hp, Except.map, Except.ok.injEq, Prod.mk.injEq] at h
      exact h.1 ▸ hparts hp
  · cases hp : Method.readParts line line with
    | error why => simp [hp, Except.map] at h
    | ok m' =>
      rw [hp, Except.map, Except.ok.injEq, Prod.mk.injEq] at h
      exact h.1 ▸ hparts hp

/-- A member is read. -/
theorem Follows.stepMember {line : Text} (hr : r.Follows lines)
    (h : r.stepMember line = .ok r') : r'.Follows lines := by
  unfold ClassReading.stepMember at h
  split at h
  · exact Except.ok.inj h ▸ hr.enter (by simp)
  · split at h
    · split at h
      · cases h
      · exact Except.ok.inj h ▸ hr.enter (by simp)
      · next m hm =>
        refine Except.ok.inj h ▸ hr.addMethod fun b hb => ?_
        rw [body_eq_none_of_readHeader hm] at hb
        cases hb
    · cases hf : Field.read line with
      | error why => simp [hf, Except.map] at h
      | ok f =>
        rw [hf, Except.map, Except.ok.injEq] at h
        exact h ▸ ⟨hr.methods, hr.phase⟩

/-- **One line** of a class is read. -/
theorem Follows.step {line : Line} (hline : line ∈ lines) (hr : r.Follows lines)
    (h : r.step line = .ok r') : r'.Follows lines := by
  unfold ClassReading.step at h
  split at h
  · exact openBrace_eq_ok h ▸ hr.enter (by simp)
  · exact hr.stepMember h
  · next m _ =>
    refine openBrace_eq_ok h ▸ hr.enter fun m' b heq => ?_
    obtain ⟨rfl, rfl⟩ := ClassPhase.body.inj heq
    exact ⟨[], List.nil_subset _, .nil _⟩
  · next m b hphase =>
    obtain ⟨taken, hsub, htakes⟩ := hr.phase m b hphase
    split at h
    · refine Except.ok.inj h ▸ hr.addMethod fun b' hb' => ?_
      exact ⟨taken, b, hsub, htakes, Option.some.inj hb'⟩
    next hopen =>
      cases hs : b.step line with
      | error why => simp [hs, Except.map] at h
      | ok b' =>
        rw [hs, Except.map, Except.ok.injEq] at h
        refine h ▸ hr.enter fun m' b'' heq => ?_
        obtain ⟨rfl, rfl⟩ := ClassPhase.body.inj heq
        have hone : BodyReading.Takes b [line] b' :=
          .cons (Bool.eq_false_iff.2 hopen) hs (.nil b')
        exact ⟨taken ++ [line], List.append_subset.2 ⟨hsub, by simpa using hline⟩,
          htakes.append hone⟩
  · cases h

/-- **All lines** of a class are read. -/
theorem Follows.stepAll {rest : List Line} (hsub : rest ⊆ lines) (hr : r.Follows lines)
    (h : r.stepAll rest = .ok r') : r'.Follows lines := by
  induction rest generalizing r with
  | nil => exact Except.ok.inj h ▸ hr
  | cons line rest ih =>
    rw [List.cons_subset] at hsub
    rw [ClassReading.stepAll] at h
    split at h
    · cases h
    · next r₁ hstep => exact ih hsub.2 (hr.step hsub.1 hstep) h

/-- At the end the class is the one that was read. -/
theorem cls_of_finish {last : Nat} {c : Class} (h : r.finish last = .ok c) : r.cls = c := by
  unfold finish at h
  split at h <;> cases h
  rfl

end ClassReading

/-- Headers of classes come without members. -/
theorem Class.empty_of_readHeader {line : Text} {c : Class} (h : readHeader line = .ok c) :
    c.fields = [] ∧ c.methods = [] := by
  unfold readHeader at h
  dsimp only at h
  split at h
  · cases h
  · cases h
  · next name rest _ =>
    cases hr : readAncestors rest with
    | error why => simp [hr, bind, Except.bind] at h
    | ok ancestors =>
      rw [hr] at h
      exact Except.ok.inj h ▸ ⟨rfl, rfl⟩

/-- **The bodies of a class** were taken from lines of its text, as bodies of its methods. -/
theorem Class.takenFrom_of_read {s : Text} {c : Class} (h : Class.read s = .ok c) {m : Method}
    (hm : m ∈ c.methods) {b : Body} (hb : m.body = some b) :
    b.TakenFrom (significantLines s) (c.refTo m.sig) := by
  unfold Class.read at h
  dsimp only at h
  split at h
  · cases h
  next first rest hlines =>
    split at h
    · cases h
    · next cls hheader =>
      split at h
      · cases h
      · next r hsteps =>
        have hstart : ClassReading.Follows (significantLines s) { cls, phase := .opening } := by
          refine ⟨fun m hm => ?_, by simp⟩
          rw [(empty_of_readHeader hheader).2] at hm
          cases hm
        have hr := hstart.stepAll (hlines ▸ List.subset_cons_self first rest) hsteps
        obtain rfl := ClassReading.cls_of_finish h
        exact hr.methods m hm b hb

end Weaver
