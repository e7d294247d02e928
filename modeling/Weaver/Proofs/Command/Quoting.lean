import Weaver.Proofs.Command.Spelling

/-!
# Quoted Words That Are Split Again

Quoting writes a single quote inside a word as three quoted pieces without white space between them,
as shells take them for one word, and it leaves backslashes as they are. Splitting ends a word at
every closing quote and lets a backslash take the next character between quotes as well. So a single
quote takes a quoted word apart, and a backslash never comes back: of the backslashes of a line, at
least every other one is lost. Words come back if they have neither, and only then.

## Main definitions

* `CommandLine.quotedPieces`: the words that a quoted word is split into.

## Main results

* `CommandLine.split?_join_quote`: **what quoted words without backslashes are split into**.
* `CommandLine.two_mul_count_backslash_le`: backslashes are lost.
* `CommandLine.split?_join_quote_eq_iff`: **when splitting undoes quoting**.
-/

namespace Weaver.CommandLine

variable {word w s : Text} {words : List Text}

/-! ### Single quotes -/

/-- The words that a quoted word without backslashes is split into: what stands between its single
quotes, and each of these as a word of its own. -/
def quotedPieces (w : Text) : List Text :=
  (Text.splitOn '\'' w).intersperse ['\'']

/-- A word without single quotes is one piece. -/
theorem quotedPieces_of_not_mem (hw : '\'' ∉ w) : quotedPieces w = [w] := by
  rw [quotedPieces, Text.splitOn_of_not_mem hw]
  rfl

/-- What stands in front of the first single quote is a piece, and the quote is one. -/
theorem quotedPieces_append (hword : '\'' ∉ word) (w : Text) :
    quotedPieces (word ++ '\'' :: w) = word :: ['\''] :: quotedPieces w := by
  rw [quotedPieces, quotedPieces, Text.splitOn_append hword]
  cases hw : Text.splitOn '\'' w with
  | nil => exact absurd hw (Text.splitBy_ne_nil _ w)
  | cons piece pieces => rfl

/-- What follows the opening quote, when `word` has been begun. -/
theorem splitFrom_quotedChars (hword : '\'' ∉ word) (hw : '\\' ∉ w) (s : Text) :
    splitFrom .single word (w.flatMap quotedChar ++ '\'' :: s) =
      (splitFrom .outside [] s).map (quotedPieces (word ++ w) ++ ·) := by
  have hsingle : QuoteState.single ≠ .outside := by decide
  have hdouble : QuoteState.double ≠ .outside := by decide
  induction w generalizing word with
  | nil =>
    rw [List.flatMap_nil, List.nil_append, List.append_nil, quotedPieces_of_not_mem hword]
    exact splitFrom_closing hsingle word s
  | cons c w ih =>
    obtain ⟨hc, hrest⟩ : '\\' ≠ c ∧ '\\' ∉ w := by simpa using hw
    rw [List.flatMap_cons, List.append_assoc]
    by_cases hquote : c = '\''
    · subst hquote
      -- the piece is closed, the quote stands between double ones, and the next piece is opened
      calc splitFrom .single word ('\'' :: '"' :: '\'' :: '"' :: '\'' ::
              (w.flatMap quotedChar ++ '\'' :: s))
          = (splitFrom .outside [] ('"' :: '\'' :: '"' :: '\'' ::
              (w.flatMap quotedChar ++ '\'' :: s))).map (word :: ·) :=
            splitFrom_closing hsingle word _
        _ = (splitFrom .double [] ('\'' :: '"' :: '\'' ::
              (w.flatMap quotedChar ++ '\'' :: s))).map (word :: ·) :=
            congrArg _ (splitFrom_opening hdouble [] _)
        _ = (splitFrom .double ['\''] ('"' :: '\'' ::
              (w.flatMap quotedChar ++ '\'' :: s))).map (word :: ·) :=
            congrArg _ (splitFrom_plain (by decide) [] _)
        _ = ((splitFrom .outside [] ('\'' :: (w.flatMap quotedChar ++ '\'' :: s))).map
              (['\''] :: ·)).map (word :: ·) :=
            congrArg _ (splitFrom_closing hdouble ['\''] _)
        _ = ((splitFrom .single [] (w.flatMap quotedChar ++ '\'' :: s)).map
              (['\''] :: ·)).map (word :: ·) :=
            congrArg _ (congrArg _ (splitFrom_opening hsingle [] _))
        _ = (splitFrom .outside [] s).map (quotedPieces (word ++ '\'' :: w) ++ ·) := by
            rw [ih List.not_mem_nil hrest, quotedPieces_append hword, Option.map_map,
              Option.map_map]
            rfl
    · have hplain : QuoteState.single.escapes c = false := by
        simp [QuoteState.escapes, hquote, hc.symm]
      have hmore : '\'' ∉ word ++ [c] := by simpa [hword] using fun h => hquote h.symm
      rw [quotedChar, if_neg hquote, List.singleton_append, splitFrom_plain hplain, ih hmore hrest,
        List.append_assoc, List.singleton_append]

/-- **A quoted word** without backslashes is split into its pieces. -/
theorem splitFrom_quote (hw : '\\' ∉ w) (s : Text) :
    splitFrom .outside [] (quote w ++ s) =
      (splitFrom .outside [] s).map (quotedPieces w ++ ·) := by
  have hsingle : QuoteState.single ≠ .outside := by decide
  rw [quote, List.append_assoc, List.cons_append, List.singleton_append]
  exact (splitFrom_opening hsingle [] _).trans (splitFrom_quotedChars List.not_mem_nil hw s)

/-- **What quoted words without backslashes are split into.** -/
theorem split?_join_quote (h : ∀ w ∈ words, '\\' ∉ w) :
    split? (Text.join " ".toList (words.map quote)) = some (words.flatMap quotedPieces) := by
  rw [split?]
  induction words with
  | nil => rfl
  | cons w words ih =>
    rw [List.forall_mem_cons] at h
    have hrest := ih h.2
    cases words with
    | nil =>
      have hread := splitFrom_quote h.1 []
      rw [List.append_nil] at hread
      rw [List.map_singleton, Text.join, hread, List.flatMap_singleton]
      exact congrArg some (List.append_nil _)
    | cons w' words =>
      rw [List.map_cons, List.map_cons, Text.join_cons_cons, List.append_assoc,
        splitFrom_quote h.1, List.flatMap_cons]
      rw [List.map_cons] at hrest
      exact congrArg _ ((splitFrom_blank rfl [] _).trans hrest)

/-- Words that are their own pieces are without single quotes. -/
theorem not_mem_of_flatMap_quotedPieces (h : words.flatMap quotedPieces = words) :
    ∀ w ∈ words, '\'' ∉ w := by
  induction words with
  | nil => exact fun w hw => absurd hw List.not_mem_nil
  | cons w words ih =>
    by_cases hmem : '\'' ∈ w
    · -- the first piece has no single quote, so it is not the word
      obtain ⟨a, b, rfl, ha⟩ := List.eq_append_cons_of_mem hmem
      rw [List.flatMap_cons, quotedPieces_append ha, List.cons_append] at h
      rw [← (List.cons.inj h).1] at hmem
      exact absurd hmem ha
    · rw [List.flatMap_cons, quotedPieces_of_not_mem hmem, List.singleton_append] at h
      rw [List.forall_mem_cons]
      exact ⟨hmem, ih (List.cons.inj h).2⟩

/-! ### Backslashes -/

/-- A backslash comes back only if another one takes it: **at least half of them are lost**. -/
theorem two_mul_count_backslash_le {q : QuoteState} (h : splitFrom q word s = some words) :
    2 * words.flatten.count '\\' ≤ 2 * word.count '\\' + s.count '\\' := by
  induction q, s using reading_induction generalizing word words with
  | nil q =>
    rw [splitFrom, Option.ite_none_left_eq_some] at h
    obtain ⟨-, h⟩ := h
    split at h <;> obtain rfl := Option.some.inj h <;> simp
  | backslash q => cases h
  | escape q c s ih =>
    -- the backslash pays for the one that it may take into the word
    rw [splitFrom_backslash] at h
    have hrest := ih h
    have hone : [c].count '\\' ≤ 1 := List.count_le_length
    rw [List.count_append] at hrest
    rw [List.count_cons_self, ← List.singleton_append, List.count_append]
    omega
  | plain q c s hc ih =>
    rw [splitFrom_plain hc] at h
    have hrest := ih h
    rw [List.count_append] at hrest
    rw [List.count_cons_of_ne (ne_backslash_of_escapes hc)]
    have hnone : [c].count '\\' = 0 :=
      List.count_eq_zero.2 fun hmem =>
        ne_backslash_of_escapes hc (List.mem_singleton.1 hmem).symm
    omega
  | blank c s hc ih =>
    rw [splitFrom_blank hc] at h
    rw [List.count_cons_of_ne (ne_backslash_of_isBlank hc)]
    split at h
    next =>
      have hrest := ih h
      rw [List.count_nil] at hrest
      omega
    next =>
      obtain ⟨rest, hread, rfl⟩ := Option.map_eq_some_iff.1 h
      have hrest := ih hread
      rw [List.count_nil] at hrest
      rw [List.flatten_cons, List.count_append]
      omega
  | opening q s hq ih =>
    rw [splitFrom_opening hq] at h
    have hrest := ih h
    rw [List.count_append]
    omega
  | closing q s hq ih =>
    rw [splitFrom_closing hq] at h
    obtain ⟨rest, hread, rfl⟩ := Option.map_eq_some_iff.1 h
    have hrest := ih hread
    rw [List.count_nil] at hrest
    rw [List.flatten_cons, List.count_append, List.count_append]
    omega

/-- Quoting neither adds backslashes nor takes any away. -/
theorem count_backslash_quote (w : Text) : (quote w).count '\\' = w.count '\\' := by
  have hchars : (w.flatMap quotedChar).count '\\' = w.count '\\' := by
    induction w with
    | nil => rfl
    | cons c w ih =>
      rw [List.flatMap_cons, List.count_append, ih, List.count_cons, Nat.add_comm]
      refine congrArg _ ?_
      rw [quotedChar]
      split
      next hc =>
        rw [hc]
        rfl
      next => rw [List.count_singleton]
  rw [quote, List.count_append, List.count_cons_of_ne (by decide), hchars]
  rfl

/-- Quoting keeps all backslashes. -/
theorem count_backslash_join_quote (words : List Text) :
    (Text.join " ".toList (words.map quote)).count '\\' = words.flatten.count '\\' := by
  induction words with
  | nil => rfl
  | cons w words ih =>
    rw [List.flatten_cons, List.count_append, ← ih, ← count_backslash_quote w]
    cases words with
    | nil => rfl
    | cons w' words =>
      rw [List.map_cons, List.map_cons, Text.join_cons_cons, List.count_append, List.count_append]
      rfl

/-! ### Undoing -/

/-- **When splitting undoes quoting**: if the words have no single quotes and no backslashes, and
only then. -/
theorem split?_join_quote_eq_iff (words : List Text) :
    split? (Text.join " ".toList (words.map quote)) = some words ↔
      ∀ w ∈ words, '\'' ∉ w ∧ '\\' ∉ w := by
  constructor
  · intro h
    have hcount := two_mul_count_backslash_le h
    rw [count_backslash_join_quote, List.count_nil] at hcount
    have hslash : ∀ w ∈ words, '\\' ∉ w := by
      intro w hw hmem
      have hpos := List.count_pos_iff.2 (List.mem_flatten.2 ⟨w, hw, hmem⟩)
      omega
    rw [split?_join_quote hslash] at h
    exact fun w hw => ⟨not_mem_of_flatMap_quotedPieces (Option.some.inj h) w hw, hslash w hw⟩
  · intro h
    rw [split?_join_quote fun w hw => (h w hw).2]
    refine congrArg some ?_
    calc words.flatMap quotedPieces = words.flatMap fun w => [w] :=
          List.flatMap_congr fun w hw => quotedPieces_of_not_mem (h w hw).1
      _ = words := List.flatMap_singleton' words

/-- **A single quote takes a word apart**, and a backslash takes the closing quote with it. -/
theorem split?_quote_apostrophe :
    quote "it's".toList = "'it'\"'\"'s'".toList ∧
      split? (quote "it's".toList) = some ["it".toList, "'".toList, "s".toList] ∧
      split? (quote "it's".toList) ≠ some ["it's".toList] ∧
      split? (quote "\\".toList) = none := by
  decide

end Weaver.CommandLine
