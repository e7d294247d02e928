import Weaver.Proofs.Jimple.LexicalForm

/-!
# Verbatim Code as Tokens

Renaming in verbatim code collects words character by character and walks through literals and
references on the way. What it does is said in two steps here: a text is cut into tokens, which
are the maximal words outside literals and references and single other characters, and of these
the words in question are exchanged.

The new text has the exchanged tokens, so that a renaming can be undone, with one exception. A
bracket `<` opens a reference if a word follows it that does not begin with a digit, and a
renaming may change the word behind a bracket from one kind to the other.

## Main definitions

* `Token`, `Text.tokens`, `Token.texts`: taking a text apart and writing it again.
* `Text.identifiers`: the words of a text outside literals and references.
* `Token.Fits`: the lists of tokens that texts are taken apart into.
* `Text.KeepsBrackets`: no bracket comes to open a reference.

## Main results

* `Text.renameWord_eq`: renaming exchanges tokens.
* `Text.tokens_renameWord`: **the new text has the exchanged tokens**.
* `Text.renameWord_renameWord`: **renaming back**.
-/

namespace Weaver

/-! ### Tokens -/

/-- A token of verbatim code. -/
inductive Token where
  /-- A maximal run of word characters outside literals and references. -/
  | word (w : Text)
  /-- Any other character. -/
  | char (c : Char)
deriving DecidableEq, Repr

namespace Token

/-- The written form of a token. -/
def text : Token → Text
  | word w => w
  | char c => [c]

/-- The written form of tokens. -/
def texts (ts : List Token) : Text :=
  ts.flatMap text

/-- The word that a token is. -/
def word? : Token → Option Text
  | word w => some w
  | char _ => none

/-- Replaces the word `old` by `new`. -/
def rename (old new : Text) : Token → Token
  | word w => word (renameName old new w)
  | char c => char c

/-- One more character of a word in front. -/
def extend (c : Char) : List Token → List Token
  | word w :: ts => word (c :: w) :: ts
  | ts => word [c] :: ts

@[simp] theorem texts_nil : texts [] = [] :=
  rfl

@[simp] theorem texts_cons (t : Token) (ts : List Token) : texts (t :: ts) = t.text ++ texts ts :=
  rfl

@[simp] theorem texts_append (ts us : List Token) : texts (ts ++ us) = texts ts ++ texts us :=
  List.flatMap_append

/-- A character in front of the first word stands in front of the text. -/
theorem texts_extend (c : Char) (ts : List Token) : texts (extend c ts) = c :: texts ts := by
  unfold extend
  split <;> rfl

@[simp] theorem word?_rename (old new : Text) (t : Token) :
    (t.rename old new).word? = t.word?.map (renameName old new) := by
  cases t <;> rfl

end Token

/-- The tokens of a text that begins in the zone `z`. -/
def Text.tokens : Zone → Text → List Token
  | _, [] => []
  | .outside, c :: s =>
    if isWordChar c then Token.extend c (tokens .outside s)
    else .char c :: tokens (Zone.after .outside c s.head?) s
  | z, c :: s => .char c :: tokens (z.after c s.head?) s

/-- The words of a text outside literals and references. -/
def Text.identifiers (s : Text) : List Text :=
  (tokens .outside s).filterMap Token.word?

/-! ### Zones and word characters -/

/-- In a literal or a reference, a character ends it whatever follows. -/
theorem Zone.after_of_ne_outside {z : Zone} (hz : z ≠ .outside) (c : Char)
    (next next' : Option Char) : z.after c next = z.after c next' := by
  cases z with
  | outside => exact absurd rfl hz
  | quoted escaped => cases escaped <;> rfl
  | reference depth => rfl

/-- Outside, what follows a character matters to the bracket that may open a reference. -/
theorem Zone.after_outside_congr {c : Char} {next next' : Option Char}
    (h : c = '<' → opensReference next = opensReference next') :
    after .outside c next = after .outside c next' := by
  by_cases hc : c = '<'
  · rw [after, after, h hc]
  · simp [after, hc]

/-- A bracket stays outside if it opens no reference. -/
theorem Zone.after_bracket (next : Option Char) :
    after .outside '<' next = .outside ↔ opensReference next = false := by
  cases h : opensReference next <;> simp [after, h]

/-- What follows a bracket that may open a reference is not outside. -/
theorem Zone.after_bracket_ne_outside {next : Option Char} (h : opensReference next = true)
    (z : Zone) : z.after '<' next ≠ .outside := by
  cases z with
  | outside =>
    rw [Ne, after_bracket, h]
    exact Bool.noConfusion
  | quoted escaped => cases escaped <;> simp [after]
  | reference depth => simp [after]

namespace Text

/-- Outside, a word character joins the word behind it. -/
theorem tokens_of_isWordChar {c : Char} (hc : isWordChar c = true) (s : Text) :
    tokens .outside (c :: s) = Token.extend c (tokens .outside s) := by
  rw [tokens, if_pos hc]

/-- Outside, any other character is a token of its own. -/
theorem tokens_of_not_isWordChar {c : Char} (hc : isWordChar c = false) (s : Text) :
    tokens .outside (c :: s) = .char c :: tokens (Zone.after .outside c s.head?) s := by
  rw [tokens, if_neg (Bool.eq_false_iff.1 hc)]

/-- In literals and references every character is a token of its own. -/
theorem tokens_of_ne_outside {z : Zone} (hz : z ≠ .outside) (c : Char) (s : Text) :
    tokens z (c :: s) = .char c :: tokens (z.after c s.head?) s := by
  cases z with
  | outside => exact absurd rfl hz
  | quoted _ => rfl
  | reference _ => rfl

/-- **Taking a text apart loses nothing.** -/
@[simp] theorem texts_tokens (z : Zone) (s : Text) : Token.texts (tokens z s) = s := by
  induction s generalizing z with
  | nil => simp [tokens]
  | cons c s ih =>
    by_cases hz : z = .outside
    · subst hz
      cases hc : isWordChar c with
      | true => rw [tokens_of_isWordChar hc, Token.texts_extend, ih]
      | false =>
        rw [tokens_of_not_isWordChar hc, Token.texts_cons, ih, Token.text, List.singleton_append]
    · rw [tokens_of_ne_outside hz, Token.texts_cons, ih, Token.text, List.singleton_append]

end Text

/-! ### Tokens that fit together -/

/-- **Tokens of a text** that begins in the zone `z`: words stand outside and apart from each
other, and every other character is followed by the zone behind it. -/
inductive Token.Fits : Zone → List Token → Prop where
  | nil {z : Zone} : Fits z []
  | word {w : Text} {ts : List Token} (hw : IsWord w) (hnext : ∀ t ∈ ts.head?, t.word? = none)
      (h : Fits .outside ts) : Fits .outside (.word w :: ts)
  | outer {c : Char} {ts : List Token} (hc : isWordChar c = false)
      (h : Fits (Zone.after .outside c (texts ts).head?) ts) : Fits .outside (.char c :: ts)
  | inner {z : Zone} {c : Char} {ts : List Token} (hz : z ≠ .outside)
      (h : Fits (z.after c (texts ts).head?) ts) : Fits z (.char c :: ts)

namespace Token

/-- A word character in front keeps tokens that fit. -/
theorem Fits.extend {c : Char} {ts : List Token} (hc : isWordChar c = true)
    (h : Fits .outside ts) : Fits .outside (extend c ts) := by
  unfold Token.extend
  split
  · next w ts =>
    cases h with
    | word hw hnext h =>
      exact .word ⟨List.cons_ne_nil _ _, List.forall_mem_cons.2 ⟨hc, hw.2⟩⟩ hnext h
  · next hword =>
    refine .word ⟨List.cons_ne_nil _ _, by simpa using hc⟩ (fun t ht => ?_) h
    cases t with
    | char c => rfl
    | word w =>
      obtain ⟨us, rfl⟩ := List.head?_eq_some_iff.1 ht
      exact absurd rfl (hword w us)

/-- Every text is taken apart into tokens that fit. -/
theorem fits_tokens (z : Zone) (s : Text) : Fits z (Text.tokens z s) := by
  induction s generalizing z with
  | nil =>
    rw [Text.tokens]
    exact .nil
  | cons c s ih =>
    by_cases hz : z = .outside
    · subst hz
      cases hc : isWordChar c with
      | true =>
        rw [Text.tokens_of_isWordChar hc]
        exact (ih _).extend hc
      | false =>
        rw [Text.tokens_of_not_isWordChar hc]
        exact .outer hc (by simpa using ih _)
    · rw [Text.tokens_of_ne_outside hz]
      exact .inner hz (by simpa using ih _)

/-- What stands behind a word begins with no word character. -/
theorem Fits.head_of_word {ts : List Token} (h : Fits .outside ts)
    (hnext : ∀ t ∈ ts.head?, t.word? = none) : ∀ c ∈ (texts ts).head?, isWordChar c = false := by
  cases h with
  | nil => simp
  | word => exact absurd (hnext _ rfl) (Option.some_ne_none _)
  | outer hc => simpa [text] using hc
  | inner hz => exact absurd rfl hz

end Token

/-- A word in front is one token. -/
theorem Text.tokens_word_append {w : Text} (hw : IsWord w) {s : Text}
    (hs : ∀ c ∈ s.head?, isWordChar c = false) :
    tokens .outside (w ++ s) = .word w :: tokens .outside s := by
  obtain ⟨hne, hall⟩ := hw
  induction w with
  | nil => exact absurd rfl hne
  | cons c w ih =>
    obtain ⟨hc, hall⟩ := List.forall_mem_cons.1 hall
    rw [List.cons_append, tokens_of_isWordChar hc]
    cases w with
    | cons d w => rw [ih (List.cons_ne_nil _ _) hall, Token.extend]
    | nil =>
      cases s with
      | nil => simp [tokens, Token.extend]
      | cons d s => rw [List.nil_append, tokens_of_not_isWordChar (hs d rfl), Token.extend]; simp

namespace Token

/-- **Tokens that fit are those of their text.** -/
theorem Fits.tokens_texts {z : Zone} {ts : List Token} (h : Fits z ts) :
    Text.tokens z (texts ts) = ts := by
  induction h with
  | nil => simp [Text.tokens]
  | word hw hnext h ih =>
    rw [texts_cons, text, Text.tokens_word_append hw (h.head_of_word hnext), ih]
  | outer hc _ ih =>
    rw [texts_cons, text, List.singleton_append, Text.tokens_of_not_isWordChar hc, ih]
  | inner hz _ ih => rw [texts_cons, text, List.singleton_append, Text.tokens_of_ne_outside hz, ih]

end Token

/-! ### Renaming -/

section

variable {old new : Text}

namespace Text

/-- A word that has been read is exchanged or written as it is. -/
theorem texts_map_tokens_append (hold : old ≠ []) {run s : Text}
    (hrun : ∀ c ∈ run, isWordChar c = true) (hs : ∀ c ∈ s.head?, isWordChar c = false) :
    Token.texts ((tokens .outside (run ++ s)).map (Token.rename old new)) =
      (if run = old then new else run) ++
        Token.texts ((tokens .outside s).map (Token.rename old new)) := by
  cases run with
  | nil => rw [if_neg hold.symm, List.nil_append, List.nil_append]
  | cons c run =>
    rw [tokens_word_append ⟨List.cons_ne_nil _ _, hrun⟩ hs]
    rfl

/-- The invariant of renaming: the word that is being read belongs to the rest of the text. In
literals and references there is none. -/
theorem renameFrom_eq (hold : old ≠ []) (z : Zone) (run s : Text) (hz : z ≠ .outside → run = [])
    (hrun : ∀ c ∈ run, isWordChar c = true) : renameFrom old new z run s =
      Token.texts ((tokens z (run ++ s)).map (Token.rename old new)) := by
  induction s generalizing z run with
  | nil =>
    by_cases hout : z = .outside
    · subst hout
      rw [texts_map_tokens_append hold hrun (by simp), renameFrom]
      simp [tokens]
    · rw [hz hout, renameFrom, if_neg hold.symm]
      simp [tokens]
  | cons c s ih =>
    by_cases hout : z = .outside
    · subst hout
      rw [renameFrom]
      cases hc : isWordChar c with
      | true =>
        have hform : run ++ c :: s = (run ++ [c]) ++ s := by simp
        rw [if_pos rfl, hform, ih _ _ (fun h => absurd rfl h)]
        rw [List.forall_mem_append]
        exact ⟨hrun, by simpa using hc⟩
      | false =>
        rw [if_neg Bool.false_ne_true, texts_map_tokens_append hold hrun (by simpa using hc),
          tokens_of_not_isWordChar hc, ih _ [] (fun _ => rfl) (by simp)]
        rfl
    · obtain rfl := hz hout
      rw [renameFrom_of_ne_outside hout, ih _ [] (fun _ => rfl) (by simp), List.nil_append,
        List.nil_append, tokens_of_ne_outside hout]
      rfl

/-- **Renaming exchanges tokens.** -/
theorem renameWord_eq (hold : old ≠ []) (new s : Text) : renameWord old new s =
    Token.texts ((tokens .outside s).map (Token.rename old new)) :=
  renameFrom_eq hold .outside [] s (fun _ => rfl) (by simp)

end Text

/-! ### The tokens of the new text -/

/-- **No bracket comes to open a reference** if the word `old` is replaced by `new` among the
tokens: no bracket stands before `old`, or it would stand before a digit. -/
def Token.KeepsBrackets (old new : Text) (ts : List Token) : Prop :=
  (∃ c ∈ new.head?, c.isDigit = true) ∨ ¬[.char '<', .word old] <:+: ts

/-- No bracket comes to open a reference in a text, by its tokens. -/
def Text.KeepsBrackets (old new s : Text) : Prop :=
  Token.KeepsBrackets old new (tokens .outside s)

namespace Token

/-- Brackets are kept behind a token as well. -/
theorem KeepsBrackets.tail {t : Token} {ts : List Token} (h : KeepsBrackets old new (t :: ts)) :
    KeepsBrackets old new ts :=
  h.imp_right fun hinfix hts => hinfix (List.infix_cons hts)

/-- A bracket in front of a digit opens no reference. -/
theorem opensReference_of_isDigit {c : Char} (hc : c.isDigit = true) :
    Zone.opensReference (some c) = false := by
  simp [Zone.opensReference, hc]

/-- The text of tokens begins like the word in front. -/
theorem head?_texts_word {w : Text} (hw : IsWord w) (ts : List Token) :
    (texts (.word w :: ts)).head? = w.head? := by
  obtain ⟨c, v, rfl⟩ := List.exists_cons_of_ne_nil hw.1
  rfl

/-- The character behind an outer one may be another one afterwards, but the zone is the same. -/
theorem Fits.after_map_rename {c : Char} {ts : List Token} (hnew : IsWord new)
    (hkeep : KeepsBrackets old new (.char c :: ts))
    (h : Fits (Zone.after .outside c (texts ts).head?) ts) :
    Zone.after .outside c (texts (ts.map (rename old new))).head? =
      Zone.after .outside c (texts ts).head? := by
  refine Zone.after_outside_congr fun hc => ?_
  subst hc
  generalize hz : Zone.after .outside '<' (texts ts).head? = z at h
  cases h with
  | nil => rfl
  | outer => rfl
  | inner => rfl
  | @word w ts hw _ _ =>
    have hclosed := (Zone.after_bracket _).1 hz
    by_cases hold : w = old
    · subst hold
      obtain ⟨d, hd, hdigit⟩ | hinfix := hkeep
      · have hrename : rename w new (.word w) = .word new := by simp [rename, renameName]
        rw [hclosed, List.map_cons, hrename, head?_texts_word hnew, hd,
          opensReference_of_isDigit hdigit]
      · exact absurd ⟨[], ts, rfl⟩ hinfix
    · have hrename : rename old new (.word w) = .word w := by simp [rename, renameName, hold]
      rw [List.map_cons, hrename, head?_texts_word hw, head?_texts_word hw]

/-- **Exchanged tokens fit.** -/
theorem Fits.map_rename {z : Zone} {ts : List Token} (hnew : IsWord new) (h : Fits z ts)
    (hkeep : KeepsBrackets old new ts) : Fits z (ts.map (rename old new)) := by
  induction h with
  | nil => exact .nil
  | @word w ts hw hnext _ ih =>
    refine .word ?_ (fun u hu => ?_) (ih hkeep.tail)
    · rw [renameName]
      split
      · exact hnew
      · exact hw
    · rw [List.head?_map] at hu
      obtain ⟨t, ht, rfl⟩ := Option.map_eq_some_iff.1 hu
      rw [word?_rename, hnext t ht, Option.map_none]
  | @outer c ts hc h ih =>
    refine .outer hc ?_
    rw [h.after_map_rename hnew hkeep]
    exact ih hkeep.tail
  | @inner z c ts hz h ih =>
    refine .inner hz ?_
    rw [Zone.after_of_ne_outside hz c _ (texts ts).head?]
    exact ih hkeep.tail

/-- Behind any character the text goes on in the next zone. -/
theorem Fits.of_char {z : Zone} {c : Char} {ts : List Token} (h : Fits z (.char c :: ts)) :
    Fits (z.after c (texts ts).head?) ts := by
  cases h with
  | outer _ h => exact h
  | inner _ h => exact h

/-- Words stand outside. -/
theorem Fits.outside_of_word {z : Zone} {w : Text} {ts : List Token}
    (h : Fits z (.word w :: ts)) : z = .outside := by
  cases h
  rfl

/-- A bracket before a word that begins with no digit opens a reference. -/
theorem Fits.not_bracket_first {w : Text} (hw : IsWord w)
    (hdigit : ∀ c ∈ w.head?, c.isDigit = false) {z : Zone} {ts : List Token} (h : Fits z ts) :
    ¬[.char '<', .word w] <+: ts := by
  rintro ⟨us, rfl⟩
  have hopen : Zone.opensReference w.head? = true := by
    obtain ⟨c, v, rfl⟩ := List.exists_cons_of_ne_nil hw.1
    simp [Zone.opensReference, hw.2 c List.mem_cons_self, hdigit c rfl]
  have hout : z.after '<' (texts (.word w :: us)).head? = .outside := h.of_char.outside_of_word
  rw [head?_texts_word hw] at hout
  exact Zone.after_bracket_ne_outside hopen z hout

/-- No bracket stands before a word that begins with no digit, anywhere among tokens that fit. -/
theorem Fits.not_behind_bracket {w : Text} (hw : IsWord w)
    (hdigit : ∀ c ∈ w.head?, c.isDigit = false) {z : Zone} {ts : List Token} (h : Fits z ts) :
    ¬[.char '<', .word w] <:+: ts := by
  have hrest : ∀ {z : Zone} {t : Token} {ts : List Token}, Fits z (t :: ts) →
      ¬[.char '<', .word w] <:+: ts → ¬[.char '<', .word w] <:+: t :: ts := by
    intro z t ts h hts
    rw [List.infix_cons_iff]
    exact not_or.2 ⟨h.not_bracket_first hw hdigit, hts⟩
  induction h with
  | nil => simp
  | word hw' hnext h ih => exact hrest (.word hw' hnext h) ih
  | outer hc h ih => exact hrest (.outer hc h) ih
  | inner hz h ih => exact hrest (.inner hz h) ih

end Token

namespace Text

/-- Words that begin with no digit stand behind no bracket. -/
theorem keepsBrackets_of_head (hold : IsWord old) (hdigit : ∀ c ∈ old.head?, c.isDigit = false)
    (new s : Text) : KeepsBrackets old new s :=
  .inr ((Token.fits_tokens .outside s).not_behind_bracket hold hdigit)

/-- **The new text has the exchanged tokens.** -/
theorem tokens_renameWord (hold : old ≠ []) (hnew : IsWord new) {s : Text}
    (hkeep : KeepsBrackets old new s) : tokens .outside (renameWord old new s) =
      (tokens .outside s).map (Token.rename old new) := by
  rw [renameWord_eq hold]
  exact ((Token.fits_tokens .outside s).map_rename hnew hkeep).tokens_texts

/-- **Renaming renames the identifiers** of code, if no bracket comes to open a reference. -/
theorem identifiers_renameWord (hold : old ≠ []) (hnew : IsWord new) {s : Text}
    (hkeep : KeepsBrackets old new s) :
    (renameWord old new s).identifiers = s.identifiers.map (renameName old new) := by
  rw [identifiers, tokens_renameWord hold hnew hkeep, identifiers, List.filterMap_map,
    List.map_filterMap]
  exact congrArg (List.filterMap · _) (funext fun t => Token.word?_rename old new t)

end Text

/-- Replacing a name and replacing it back. -/
theorem renameName_renameName {name : Text} (h : name ≠ new) :
    renameName new old (renameName old new name) = name := by
  by_cases hname : name = old
  · simp [renameName, hname]
  · simp [renameName, hname, h]

/-- A name that is replaced is gone. -/
theorem renameName_ne (hne : old ≠ new) (name : Text) : renameName old new name ≠ old := by
  rw [renameName]
  split
  · exact hne.symm
  · next h => exact h

/-- **Renaming back**: a word that did not occur is replaced by the old one again. -/
theorem Text.renameWord_renameWord (hold : old ≠ []) (hnew : IsWord new) {s : Text}
    (hkeep : KeepsBrackets old new s) (hfresh : new ∉ s.identifiers) :
    renameWord new old (renameWord old new s) = s := by
  have hback : ∀ t ∈ tokens .outside s, (t.rename old new).rename new old = t := by
    intro t ht
    cases t with
    | char c => rfl
    | word w =>
      have hw : w ≠ new := by
        rintro rfl
        exact hfresh (List.mem_filterMap.2 ⟨_, ht, rfl⟩)
      exact congrArg Token.word (renameName_renameName hw)
  have hall : (tokens .outside s).map (Token.rename new old ∘ Token.rename old new) =
      (tokens .outside s).map id := List.map_congr_left hback
  rw [renameWord_eq hnew.1, tokens_renameWord hold hnew hkeep, List.map_map, hall, List.map_id,
    texts_tokens]

end

end Weaver
