import Weaver.Command.Line
import Weaver.Proofs.Text.Cutting

/-!
# How Words Are Spelled in Command Lines

A word is spelled bare or between quotes of one of the two kinds. Between quotes, only the closing
quote and the backslash need a backslash in front of them; a bare word is not empty, and it needs
one in front of white space and of all quotes as well. Splitting reads every such spelling back.

What a character does depends on the quotes that it stands in and not on the word that has been
begun. So the relation `Leads`, which follows the quotes of a text and forgets its words, is enough
to tell whether a text can be split.

## Main definitions

* `CommandLine.spelled`: the spellings of a word.
* `CommandLine.Spells`: the command lines that spell given words.
* `CommandLine.Leads`: the quotes that a text ends in.
* `CommandLine.EndsInQuotes`, `CommandLine.EndsInBackslash`: texts that stop too early.

## Main results

* `CommandLine.Spells.split?_eq`: **splitting reads every spelling**.
* `CommandLine.split?_eq_words`: without quotes and backslashes, lines are split at white space.
* `CommandLine.reading_induction`: induction along the steps of reading.
* `CommandLine.split?_eq_none_iff`: **when a text cannot be split**.
* `CommandLine.split?_reads`: these together.
-/

namespace Weaver.CommandLine

/-! ### Spellings -/

/-- The characters that need a backslash between such quotes, or in a bare word. -/
def QuoteState.escapes : QuoteState → Char → Bool
  | outside, c => isBlank c || c == '\'' || c == '"' || c == '\\'
  | single, c => c == '\'' || c == '\\'
  | double, c => c == '"' || c == '\\'

/-- The quotes as they are written. -/
def QuoteState.mark : QuoteState → Text
  | outside => []
  | single => ['\'']
  | double => ['"']

/-- A word with a backslash in front of each character that needs one. -/
def escaped (q : QuoteState) (word : Text) : Text :=
  word.flatMap fun c => if q.escapes c then ['\\', c] else [c]

/-- A word between such quotes, or bare. -/
def spelled (q : QuoteState) (word : Text) : Text :=
  q.mark ++ escaped q word ++ q.mark

/-- **A command line spells words**: they stand in it in order, each of them in one of its
spellings, with white space between neighbours and anywhere at the ends. -/
inductive Spells : List Text → Text → Prop
  | nil : Spells [] []
  | blank {c : Char} {words : List Text} {line : Text} :
      isBlank c = true → Spells words line → Spells words (c :: line)
  | last (q : QuoteState) {word : Text} :
      (q = .outside → word ≠ []) → Spells [word] (spelled q word)
  | word (q : QuoteState) {word : Text} {c : Char} {words : List Text} {line : Text} :
      (q = .outside → word ≠ []) → isBlank c = true → Spells words line →
        Spells (word :: words) (spelled q word ++ c :: line)

/-! ### One character -/

variable {q q' : QuoteState} {c : Char} {word s : Text}

/-- White space is no backslash. -/
theorem ne_backslash_of_isBlank (hc : isBlank c = true) : c ≠ '\\' := by
  rintro rfl
  exact absurd hc (by decide)

/-- A character that takes no other along is no backslash. -/
theorem ne_backslash_of_escapes (hc : q.escapes c = false) : c ≠ '\\' := by
  rintro rfl
  cases q <;> exact absurd hc (by decide)

/-- A character that needs no backslash **goes on with the word**. -/
theorem splitFrom_plain (hc : q.escapes c = false) (word s : Text) :
    splitFrom q word (c :: s) = splitFrom q (word ++ [c]) s := by
  have hslash := ne_backslash_of_escapes hc
  cases q with
  | outside =>
    obtain ⟨⟨⟨hblank, hsingle⟩, hdouble⟩, -⟩ :
        ((isBlank c = false ∧ c ≠ '\'') ∧ c ≠ '"') ∧ c ≠ '\\' := by
      simpa [QuoteState.escapes] using hc
    rw [splitFrom] <;> simp [QuoteState.isClosedBy, QuoteState.opened?, *]
  | single =>
    rw [splitFrom] <;> simp_all [QuoteState.isClosedBy, QuoteState.escapes]
  | double =>
    rw [splitFrom] <;> simp_all [QuoteState.isClosedBy, QuoteState.escapes]

/-- A quote that stands outside of quotes **opens them**. -/
theorem splitFrom_opening (hq : q ≠ .outside) (word s : Text) :
    splitFrom .outside word (q.mark ++ s) = splitFrom q word s := by
  cases q with
  | outside => exact absurd rfl hq
  | single | double =>
    rw [QuoteState.mark, List.singleton_append, splitFrom] <;>
      simp [QuoteState.isClosedBy, QuoteState.opened?]

/-- The quote that closes **ends the word**, also an empty one. -/
theorem splitFrom_closing (hq : q ≠ .outside) (word s : Text) :
    splitFrom q word (q.mark ++ s) = (splitFrom .outside [] s).map (word :: ·) := by
  cases q with
  | outside => exact absurd rfl hq
  | single | double =>
    rw [QuoteState.mark, List.singleton_append, splitFrom] <;> simp [QuoteState.isClosedBy]

/-- White space outside of quotes **ends the word** if one has been begun. -/
theorem splitFrom_blank (hc : isBlank c = true) (word s : Text) :
    splitFrom .outside word (c :: s) =
      if word = [] then splitFrom .outside [] s
      else (splitFrom .outside [] s).map (word :: ·) := by
  have hslash := ne_backslash_of_isBlank hc
  have hsingle : c ≠ '\'' := by
    rintro rfl
    exact absurd hc (by decide)
  have hdouble : c ≠ '"' := by
    rintro rfl
    exact absurd hc (by decide)
  rw [splitFrom] <;> simp [QuoteState.isClosedBy, QuoteState.opened?, *]

/-! ### Words -/

/-- Characters with their backslashes go on with the word. -/
theorem splitFrom_escaped (q : QuoteState) (word w s : Text) :
    splitFrom q word (escaped q w ++ s) = splitFrom q (word ++ w) s := by
  induction w generalizing word with
  | nil => rw [escaped, List.flatMap_nil, List.nil_append, List.append_nil]
  | cons c w ih =>
    rw [escaped, List.flatMap_cons, List.append_assoc, ← escaped]
    cases hc : q.escapes c with
    | true =>
      rw [if_pos rfl, List.cons_append, List.singleton_append, splitFrom_backslash, ih,
        List.append_assoc, List.singleton_append]
    | false =>
      rw [if_neg Bool.false_ne_true, List.singleton_append, splitFrom_plain hc, ih,
        List.append_assoc, List.singleton_append]

/-- A bare word ends at white space and at the end of the line. -/
theorem splitFrom_ended (hword : word ≠ []) (hs : ∀ c ∈ s.head?, isBlank c = true) :
    splitFrom .outside word s = (splitFrom .outside [] s).map (word :: ·) := by
  cases s with
  | nil => simp [splitFrom, hword]
  | cons c s =>
    have hc : isBlank c = true := hs c rfl
    rw [splitFrom_blank hc, splitFrom_blank hc, if_neg hword, if_pos rfl]

/-- **A spelled word is read**, if it is followed by white space or by nothing. -/
theorem splitFrom_spelled (hword : q = .outside → word ≠ [])
    (hs : ∀ c ∈ s.head?, isBlank c = true) :
    splitFrom .outside [] (spelled q word ++ s) = (splitFrom .outside [] s).map (word :: ·) := by
  rw [spelled, List.append_assoc, List.append_assoc]
  by_cases hq : q = .outside
  · subst hq
    rw [QuoteState.mark, List.nil_append, List.nil_append, splitFrom_escaped, List.nil_append,
      splitFrom_ended (hword rfl) hs]
  · rw [splitFrom_opening hq, splitFrom_escaped, List.nil_append, splitFrom_closing hq]

/-- **Splitting reads every spelling.** -/
theorem Spells.split?_eq {words : List Text} {line : Text} (h : Spells words line) :
    split? line = some words := by
  rw [split?]
  induction h with
  | nil => rfl
  | blank hc _ ih => rw [splitFrom_blank hc, if_pos rfl, ih]
  | last q hword =>
    have hend : ∀ c ∈ ([] : Text).head?, isBlank c = true := fun c hc => by cases hc
    have hread := splitFrom_spelled hword hend
    rwa [List.append_nil] at hread
  | word q hword hc _ ih =>
    rw [splitFrom_spelled hword (by simpa using hc), splitFrom_blank hc, if_pos rfl, ih,
      Option.map_some]

/-! ### Lines without quotes and backslashes -/

/-- Without quotes and backslashes, what is left is split at white space. -/
theorem splitFrom_eq_words (hword : ∀ c ∈ word, isBlank c = false)
    (hs : ∀ c ∈ s, c ≠ '\'' ∧ c ≠ '"' ∧ c ≠ '\\') :
    splitFrom .outside word s = some (Text.words (word ++ s)) := by
  induction s generalizing word with
  | nil =>
    rw [List.append_nil]
    by_cases hne : word = []
    · rw [hne]
      rfl
    · rw [Text.words_of_forall hne hword]
      simp [splitFrom, hne]
  | cons c s ih =>
    rw [List.forall_mem_cons] at hs
    obtain ⟨⟨hsingle, hdouble, hslash⟩, hs⟩ := hs
    cases hc : isBlank c with
    | true =>
      rw [splitFrom_blank hc, ih (by simp) hs, List.nil_append]
      split
      next hnil => rw [hnil, List.nil_append, Text.words_cons_of_isBlank hc]
      next hne => rw [Text.words_append hne hword hc, Option.map_some]
    | false =>
      have hplain : QuoteState.outside.escapes c = false := by
        simp [QuoteState.escapes, hc, hsingle, hdouble, hslash]
      have hmore : ∀ d ∈ word ++ [c], isBlank d = false := by
        rw [List.forall_mem_append]
        exact ⟨hword, by simpa using hc⟩
      rw [splitFrom_plain hplain, ih hmore hs, List.append_assoc, List.singleton_append]

/-- Without quotes and backslashes, a line is **split at white space**. -/
theorem split?_eq_words (hs : ∀ c ∈ s, c ≠ '\'' ∧ c ≠ '"' ∧ c ≠ '\\') :
    split? s = some (Text.words s) := by
  rw [split?, splitFrom_eq_words (by simp) hs, List.nil_append]

/-! ### Texts that stop too early -/

/-- **The quotes that a text ends in**: a text that begins inside the quotes `q` ends inside `q'`. A
backslash takes the next character with it, and none is left at the end. -/
inductive Leads : QuoteState → Text → QuoteState → Prop
  | nil (q : QuoteState) : Leads q [] q
  | escape {q q' : QuoteState} (c : Char) {s : Text} : Leads q s q' → Leads q ('\\' :: c :: s) q'
  | plain {q q' : QuoteState} {c : Char} {s : Text} :
      q.escapes c = false → Leads q s q' → Leads q (c :: s) q'
  | blank {q' : QuoteState} {c : Char} {s : Text} :
      isBlank c = true → Leads .outside s q' → Leads .outside (c :: s) q'
  | opening {q q' : QuoteState} {s : Text} :
      q ≠ .outside → Leads q s q' → Leads .outside (q.mark ++ s) q'
  | closing {q q' : QuoteState} {s : Text} :
      q ≠ .outside → Leads .outside s q' → Leads q (q.mark ++ s) q'

/-- A text **ends inside quotes**. -/
def EndsInQuotes (s : Text) : Prop :=
  ∃ q, q ≠ .outside ∧ Leads .outside s q

/-- A text **ends behind a backslash** that no other backslash takes with it. -/
def EndsInBackslash (s : Text) : Prop :=
  ∃ t q, s = t ++ ['\\'] ∧ Leads .outside t q

/-- Only the quotes matter to whether the rest can be split. -/
theorem Leads.isSome_splitFrom (h : Leads q s q') (word rest : Text) :
    ∃ word', (splitFrom q word (s ++ rest)).isSome = (splitFrom q' word' rest).isSome := by
  induction h generalizing word with
  | nil => exact ⟨word, rfl⟩
  | escape c _ ih =>
    rw [List.cons_append, List.cons_append, splitFrom_backslash]
    exact ih _
  | plain hc _ ih =>
    rw [List.cons_append, splitFrom_plain hc]
    exact ih _
  | blank hc _ ih =>
    rw [List.cons_append, splitFrom_blank hc]
    split
    next => exact ih []
    next =>
      rw [Option.isSome_map]
      exact ih []
  | opening hq _ ih =>
    rw [List.append_assoc, splitFrom_opening hq]
    exact ih _
  | closing hq _ ih =>
    rw [List.append_assoc, splitFrom_closing hq, Option.isSome_map]
    exact ih []

/-- **All that a character can be**: one that needs no backslash, a backslash, white space outside
of quotes, or a quote that opens or closes. -/
theorem QuoteState.escapes_cases (q : QuoteState) (c : Char) :
    q.escapes c = false ∨ c = '\\' ∨ (q = .outside ∧ isBlank c = true) ∨
      ∃ q₁ : QuoteState, q₁ ≠ .outside ∧ [c] = q₁.mark ∧ (q = .outside ∨ q = q₁) := by
  cases hc : q.escapes c with
  | false => exact .inl rfl
  | true =>
    refine .inr ?_
    cases q with
    | outside =>
      obtain ((hblank | rfl) | rfl) | rfl :
          ((isBlank c = true ∨ c = '\'') ∨ c = '"') ∨ c = '\\' := by
        simpa [escapes] using hc
      · exact .inr (.inl ⟨rfl, hblank⟩)
      · exact .inr (.inr ⟨.single, by decide, rfl, .inl rfl⟩)
      · exact .inr (.inr ⟨.double, by decide, rfl, .inl rfl⟩)
      · exact .inl rfl
    | single =>
      obtain rfl | rfl : c = '\'' ∨ c = '\\' := by simpa [escapes] using hc
      · exact .inr (.inr ⟨.single, by decide, rfl, .inr rfl⟩)
      · exact .inl rfl
    | double =>
      obtain rfl | rfl : c = '"' ∨ c = '\\' := by simpa [escapes] using hc
      · exact .inr (.inr ⟨.double, by decide, rfl, .inr rfl⟩)
      · exact .inl rfl

/-- **Reading a text in steps**: a property of texts inside quotes holds if each step keeps it. -/
theorem reading_induction {motive : QuoteState → Text → Prop} (nil : ∀ q, motive q [])
    (backslash : ∀ q, motive q ['\\'])
    (escape : ∀ q c s, motive q s → motive q ('\\' :: c :: s))
    (plain : ∀ q c s, q.escapes c = false → motive q s → motive q (c :: s))
    (blank : ∀ c s, isBlank c = true → motive .outside s → motive .outside (c :: s))
    (opening : ∀ q s, q ≠ .outside → motive q s → motive .outside (q.mark ++ s))
    (closing : ∀ q s, q ≠ .outside → motive .outside s → motive q (q.mark ++ s))
    (q : QuoteState) (s : Text) : motive q s := by
  induction hlength : s.length using Nat.strongRecOn generalizing q s with
  | ind n ih =>
    subst hlength
    have reading : ∀ (t : Text) (q : QuoteState), t.length < s.length → motive q t :=
      fun t q ht => ih t.length ht q t rfl
    cases s with
    | nil => exact nil q
    | cons c s =>
      have hrest : s.length < (c :: s).length := Nat.lt_succ_self _
      obtain hc | rfl | ⟨rfl, hblank⟩ | ⟨q₁, hq₁, hmark, rfl | rfl⟩ := q.escapes_cases c
      · exact plain q c s hc (reading s q hrest)
      · cases s with
        | nil => exact backslash q
        | cons d s => exact escape q d s (reading s q (Nat.lt_of_succ_lt hrest))
      · exact blank c s hblank (reading s .outside hrest)
      · rw [← List.singleton_append, hmark]
        exact opening q₁ s hq₁ (reading s q₁ hrest)
      · rw [← List.singleton_append, hmark]
        exact closing q s hq₁ (reading s .outside hrest)

/-- A first step and what the rest of the text leads to. -/
theorem leads_append {q₁ : QuoteState} {rest : Text} (pre : Text)
    (hpre : ∀ t q', Leads q₁ t q' → Leads q (pre ++ t) q')
    (h : ∃ t q', Leads q₁ t q' ∧ (rest = t ∨ rest = t ++ ['\\'])) :
    ∃ t q', Leads q t q' ∧ (pre ++ rest = t ∨ pre ++ rest = t ++ ['\\']) := by
  obtain ⟨t, q', ht, rfl | rfl⟩ := h
  · exact ⟨pre ++ rest, q', hpre rest q' ht, .inl rfl⟩
  · exact ⟨pre ++ t, q', hpre t q' ht, .inr (List.append_assoc pre t ['\\']).symm⟩

/-- Every text leads somewhere, **unless a backslash is left at its end**. -/
theorem leads_or_backslash (q : QuoteState) (s : Text) :
    ∃ t q', Leads q t q' ∧ (s = t ∨ s = t ++ ['\\']) := by
  induction q, s using reading_induction with
  | nil q => exact ⟨[], q, .nil q, .inl rfl⟩
  | backslash q => exact ⟨[], q, .nil q, .inr rfl⟩
  | escape q c s ih => exact leads_append ['\\', c] (fun _ _ h => .escape c h) ih
  | plain q c s hc ih => exact leads_append [c] (fun _ _ h => .plain hc h) ih
  | blank c s hc ih => exact leads_append [c] (fun _ _ h => .blank hc h) ih
  | opening q s hq ih => exact leads_append q.mark (fun _ _ h => .opening hq h) ih
  | closing q s hq ih => exact leads_append q.mark (fun _ _ h => .closing hq h) ih

/-- **When a text cannot be split.** -/
theorem split?_eq_none_iff : split? s = none ↔ EndsInQuotes s ∨ EndsInBackslash s := by
  rw [split?]
  constructor
  · intro hnone
    obtain ⟨t, q, ht, rfl | rfl⟩ := leads_or_backslash .outside s
    · refine .inl ⟨q, ?_, ht⟩
      rintro rfl
      obtain ⟨word, hword⟩ := ht.isSome_splitFrom [] []
      rw [List.append_nil, hnone] at hword
      cases word <;> cases hword
    · exact .inr ⟨t, q, rfl, ht⟩
  · rintro (⟨q, hq, ht⟩ | ⟨t, q, rfl, ht⟩)
    · obtain ⟨word, hword⟩ := ht.isSome_splitFrom [] []
      rw [List.append_nil, splitFrom, if_pos hq] at hword
      simpa using hword
    · obtain ⟨word, hword⟩ := ht.isSome_splitFrom [] ['\\']
      rw [splitFrom] at hword
      simpa using hword

/-- **What splitting reads.** It gives the words that a line spells; a line without quotes and
backslashes is split at white space; and a text cannot be split exactly if it ends inside quotes or
behind a backslash that has nothing to take with it. -/
theorem split?_reads :
    (∀ words line, Spells words line → split? line = some words) ∧
      (∀ s : Text, (∀ c ∈ s, c ≠ '\'' ∧ c ≠ '"' ∧ c ≠ '\\') → split? s = some (Text.words s)) ∧
      ∀ s, split? s = none ↔ EndsInQuotes s ∨ EndsInBackslash s :=
  ⟨fun _ _ h => h.split?_eq, fun _ hs => split?_eq_words hs, fun _ => split?_eq_none_iff⟩

/-- A bare word, two quoted ones, one of them empty, and white space at both ends. -/
theorem split?_reads_mixed :
    Spells ["a b".toList, "it's".toList, []] " a\\ b\t'it\\'s'  \"\" ".toList ∧
      split? " a\\ b\t'it\\'s'  \"\" ".toList = some ["a b".toList, "it's".toList, []] ∧
      split? "java -jar".toList = some ["java".toList, "-jar".toList] ∧
      split? "'".toList = none := by
  have hline : Spells ["a b".toList, "it's".toList, []] " a\\ b\t'it\\'s'  \"\" ".toList :=
    .blank rfl (.word .outside (by decide) rfl
      (.word .single (by decide) rfl (.blank rfl (.word .double (by decide) rfl .nil))))
  have hquote : EndsInQuotes "'".toList :=
    ⟨.single, by decide, .opening (q := .single) (by decide) (.nil .single)⟩
  exact ⟨hline, split?_reads.1 _ _ hline, split?_reads.2.1 _ (by decide),
    (split?_reads.2.2 _).2 (.inl hquote)⟩

end Weaver.CommandLine
