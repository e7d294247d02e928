import Weaver.Pass.Substitution
import Weaver.Proofs.Jimple.RoundTrip.Operand

/-!
# Marked Words

A local that is replaced keeps its name behind a mark. Renaming it in a text puts the mark in
front of some occurrences of the name, and of the name as a whole word only. All that cuts a
text at punctuation or white space cuts the marked text at the same places, since neither the
mark nor the name has any; and what is found in the marked text without the mark was there
before.

Nothing here depends on which occurrences are marked.

## Main definitions

* `Marked`: some occurrences of a word carry the mark.
* `unmarkable`: a text in which the mark has no place.

## Main results

* `Marked.renameWord`: renaming marks.
* `Marked.split_right`, `Marked.split_left`: **seams stay seams**.
* `Marked.stripPrefix`: an unmarkable beginning was there before.
* `Marked.cutAtChar?`, `Marked.cutAt?`, `Marked.cutOutside?`, `Marked.trim`: cutting.
-/

namespace Weaver

/-- What stands in front of the name of a replaced local. -/
def replacedMark : Text :=
  "replaced_".toList

/-- **Marking**: the second text is the first one with the mark in front of some occurrences of
`w`, each of them a whole word. `run` tells whether a character of words stands in front of the
texts. -/
inductive Marked (w : Text) : Bool → Text → Text → Prop where
  | nil {run : Bool} : Marked w run [] []
  | char {run : Bool} {c : Char} {s s' : Text} (h : Marked w (isWordChar c) s s') :
      Marked w run (c :: s) (c :: s')
  | word {s s' : Text} (hend : ∀ c ∈ s.head?, isWordChar c = false) (h : Marked w true s s') :
      Marked w false (w ++ s) (Substitution.replacedName w ++ s')

namespace Marked

variable {w : Text} {run : Bool} {s s' : Text}

/-! ### Elementary properties -/

theorem refl (w : Text) (run : Bool) (s : Text) : Marked w run s s := by
  induction s generalizing run with
  | nil => exact .nil
  | cons c s ih => exact .char (ih _)

/-- In front of a word, more may be marked. -/
theorem relax (h : Marked w run s s') : Marked w false s s' := by
  cases h with
  | nil => exact .nil
  | char h => exact .char h
  | word hend h => exact .word hend h

/-- A common beginning does not matter if whatever stands in front of the rest does not. -/
theorem copy (a : Text) (h : ∀ run, Marked w run s s') : Marked w run (a ++ s) (a ++ s') := by
  induction a generalizing run with
  | nil => exact h run
  | cons c a ih => exact .char ih

/-- Punctuation in front. -/
theorem cons {c : Char} (hc : isWordChar c = false) (h : Marked w false s s') :
    Marked w run (c :: s) (c :: s') :=
  .char (by rwa [hc])

/-- **Marked texts around punctuation.** -/
theorem append {c : Char} (hc : isWordChar c = false) {b b' : Text} (h : Marked w run s s')
    (hb : Marked w false b b') : Marked w run (s ++ c :: b) (s' ++ c :: b') := by
  induction h with
  | nil => exact hb.cons hc
  | char _ ih => exact .char ih
  | @word s s' hend _ ih =>
    rw [List.append_assoc, List.append_assoc]
    refine .word ?_ ih
    cases s with
    | nil =>
      rintro d ⟨rfl⟩
      exact hc
    | cons d s => exact hend

/-- A marked text without the first letter of the mark is unmarked. -/
theorem eq_of_not_mem (h : Marked w run s s') (hr : 'r' ∉ s') : s = s' := by
  induction h with
  | nil => rfl
  | char _ ih => rw [ih fun hmem => hr (List.mem_cons_of_mem _ hmem)]
  | word => exact absurd (List.mem_append_left _ List.mem_cons_self) hr

end Marked

/-! ### Renaming marks -/

/-- The mark has only characters of words. -/
theorem isWordChar_of_mem_replacedMark {c : Char} (h : c ∈ replacedMark) : isWordChar c = true := by
  have hall : ∀ c ∈ replacedMark, isWordChar c = true := by decide
  exact hall c h

/-- A replaced name is the mark and the name. -/
theorem replacedName_eq (w : Text) : Substitution.replacedName w = replacedMark ++ w :=
  rfl

/-- A zone ends at punctuation. -/
theorem Zone.isWordChar_of_after_outside {z : Zone} {c : Char} {next : Option Char}
    (hz : z ≠ .outside) (h : z.after c next = .outside) : isWordChar c = false := by
  unfold Zone.after at h
  split at h
  · exact absurd rfl hz
  · cases h
  · split at h
    · cases h
    · split at h
      next hc => rw [hc]; rfl
      · cases h
  · split at h
    · cases h
    · split at h
      next hc => rw [hc]; rfl
      · cases h

/-- The invariant of renaming: what has been read of the current word, and the rest of the text.
In literals and references nothing is marked. -/
theorem renameFrom_marked {w : Text} (hw : w ≠ []) (z : Zone) (s : Text) :
    (z = .outside → ∀ word : Text,
        Marked w false (word ++ s) (Text.renameFrom w (Substitution.replacedName w) z word s)) ∧
      (z ≠ .outside → ∀ run,
        Marked w run s (Text.renameFrom w (Substitution.replacedName w) z [] s)) := by
  have hflush : ∀ word : Text,
      Marked w false word (if word = w then Substitution.replacedName w else word) := by
    intro word
    split
    next h =>
      subst h
      simpa using Marked.word (w := word) (s := []) (by simp) .nil
    · exact .refl w _ word
  induction s generalizing z with
  | nil =>
    refine ⟨?_, fun hz run => ?_⟩
    · rintro rfl word
      rw [List.append_nil]
      exact hflush word
    · rw [Text.renameFrom, if_neg hw.symm]
      exact .nil
  | cons c s ih =>
    -- Behind the character, a new word begins unless the character is part of one.
    have hrest : isWordChar c = false → ∀ z, Marked w false s
        (Text.renameFrom w (Substitution.replacedName w) z [] s) := by
      intro hc z
      by_cases hz : z = .outside
      · exact (ih z).1 hz []
      · exact (ih z).2 hz false
    refine ⟨?_, fun hz run => ?_⟩
    · rintro rfl word
      rw [Text.renameFrom]
      split
      next hc =>
        have hform : word ++ c :: s = (word ++ [c]) ++ s := by simp
        rw [hform]
        exact (ih .outside).1 rfl _
      next hc =>
        rw [Bool.not_eq_true] at hc
        exact (hflush word).append hc (hrest hc _)
    · rw [Text.renameFrom_of_ne_outside hz]
      refine .char ?_
      by_cases hafter : z.after c s.head? = .outside
      · rw [Zone.isWordChar_of_after_outside hz hafter]
        exact (ih _).1 hafter []
      · exact (ih _).2 hafter _

/-- **Renaming marks.** -/
theorem Marked.renameWord {w : Text} (hw : w ≠ []) (s : Text) :
    Marked w false s (Text.renameWord w (Substitution.replacedName w) s) :=
  (renameFrom_marked hw .outside s).1 rfl []

/-! ### Seams -/

section

variable {w : Text} (hw : isLocalName w = true)
include hw

/-- A replaced name has only characters of words. -/
theorem isWordChar_of_mem_replacedName {c : Char} (h : c ∈ Substitution.replacedName w) :
    isWordChar c = true := by
  rw [replacedName_eq, List.mem_append] at h
  exact h.elim isWordChar_of_mem_replacedMark ((isLocalName_spec hw).1 c)

namespace Marked

variable {run : Bool} {s s' : Text}

/-- **Seams of the marked text** at punctuation are seams of the text. -/
theorem split_right {c : Char} (hc : isWordChar c = false) {t a' b' : Text} (h : Marked w run s t)
    (ht : t = a' ++ c :: b') :
    ∃ a b, s = a ++ c :: b ∧ Marked w run a a' ∧ Marked w false b b' := by
  induction h generalizing a' with
  | nil => simp at ht
  | @char run d s t h ih =>
    cases a' with
    | nil =>
      obtain ⟨rfl, rfl⟩ := List.cons.inj ht
      exact ⟨[], s, rfl, .nil, h.relax⟩
    | cons e a' =>
      obtain ⟨rfl, rfl⟩ := List.cons.inj ht
      obtain ⟨a, b, rfl, ha, hb⟩ := ih rfl
      exact ⟨d :: a, b, rfl, .char ha, hb⟩
  | @word s t hend h ih =>
    obtain ⟨a'', rfl, rfl⟩ :
        ∃ a'', a' = Substitution.replacedName w ++ a'' ∧ t = a'' ++ c :: b' := by
      obtain ⟨a'', ha, ht⟩ | ⟨b'', hb, ht⟩ := List.append_eq_append_iff.1 ht
      · exact ⟨a'', ha, ht⟩
      · cases b'' with
        | nil => exact ⟨[], by simpa using hb.symm, ht.symm⟩
        | cons d b'' =>
          obtain ⟨rfl, -⟩ := List.cons.inj ht
          have hmem : c ∈ Substitution.replacedName w := by simp [hb]
          rw [isWordChar_of_mem_replacedName hw hmem] at hc
          cases hc
    obtain ⟨a, b, rfl, ha, hb⟩ := ih rfl
    refine ⟨w ++ a, b, by simp, .word ?_ ha, hb⟩
    cases a with
    | nil => simp
    | cons d a => exact hend

/-- **Seams of the text** at punctuation are seams of the marked text. -/
theorem split_left {c : Char} (hc : isWordChar c = false) {t a b : Text} (h : Marked w run t s')
    (ht : t = a ++ c :: b) :
    ∃ a' b', s' = a' ++ c :: b' ∧ Marked w run a a' ∧ Marked w false b b' := by
  induction h generalizing a with
  | nil => simp at ht
  | @char run d t s' h ih =>
    cases a with
    | nil =>
      obtain ⟨rfl, rfl⟩ := List.cons.inj ht
      exact ⟨[], s', rfl, .nil, h.relax⟩
    | cons e a =>
      obtain ⟨rfl, rfl⟩ := List.cons.inj ht
      obtain ⟨a', b', rfl, ha, hb⟩ := ih rfl
      exact ⟨d :: a', b', rfl, .char ha, hb⟩
  | @word t s' hend h ih =>
    obtain ⟨a₂, rfl, rfl⟩ : ∃ a₂, a = w ++ a₂ ∧ t = a₂ ++ c :: b := by
      obtain ⟨a₂, ha, ht⟩ | ⟨b₂, hb, ht⟩ := List.append_eq_append_iff.1 ht
      · exact ⟨a₂, ha, ht⟩
      · cases b₂ with
        | nil => exact ⟨[], by simpa using hb.symm, ht.symm⟩
        | cons d b₂ =>
          obtain ⟨rfl, -⟩ := List.cons.inj ht
          have hmem : c ∈ w := by simp [hb]
          rw [(isLocalName_spec hw).1 c hmem] at hc
          cases hc
    obtain ⟨a', b', rfl, ha, hb⟩ := ih rfl
    refine ⟨Substitution.replacedName w ++ a', b', by simp, .word ?_ ha, hb⟩
    cases a₂ with
    | nil => simp
    | cons d a₂ => exact hend

/-- Punctuation is neither added nor removed. -/
theorem mem_iff {c : Char} (hc : isWordChar c = false) (h : Marked w run s s') :
    c ∈ s ↔ c ∈ s' := by
  constructor
  · intro hmem
    obtain ⟨a, b, hs⟩ := List.append_of_mem hmem
    obtain ⟨a', b', rfl, -, -⟩ := h.split_left hw hc hs
    simp
  · intro hmem
    obtain ⟨a', b', hs'⟩ := List.append_of_mem hmem
    obtain ⟨a, b, rfl, -, -⟩ := h.split_right hw hc hs'
    simp

/-- Marking neither empties a text nor fills one. -/
theorem eq_nil_iff (h : Marked w run s s') : s = [] ↔ s' = [] := by
  have hne : w ≠ [] := by
    obtain ⟨-, c, rest, hform, -, -⟩ := isLocalName_spec hw
    rw [hform]
    exact List.cons_ne_nil _ _
  cases h with
  | nil => simp
  | char h => simp
  | word hend h => simp [replacedName_eq, hne]

end Marked

end

/-! ### Passing over a word -/

/-- A character of words is none that is not. -/
theorem ne_of_isWordChar {c d : Char} (h : isWordChar c = true) (hd : isWordChar d = false) :
    c ≠ d := by
  rintro rfl
  rw [h] at hd
  cases hd

/-- The zone behind a word. -/
def Zone.behindWord : Zone → Zone
  | .quoted _ => .quoted false
  | z => z

/-- The zone behind a character of words does not depend on which one it is. -/
theorem Zone.after_word {c : Char} (hc : isWordChar c = true) (z : Zone) (next : Option Char) :
    z.after c next = z.behindWord := by
  have hquote : c ≠ '"' := ne_of_isWordChar hc rfl
  have hslash : c ≠ '\\' := ne_of_isWordChar hc rfl
  have hopen : c ≠ '<' := ne_of_isWordChar hc rfl
  have hclose : c ≠ '>' := ne_of_isWordChar hc rfl
  unfold Zone.after behindWord
  split <;> simp [hquote, hslash, hopen, hclose]

@[simp] theorem Zone.behindWord_behindWord (z : Zone) : z.behindWord.behindWord = z.behindWord := by
  cases z <;> rfl

/-- A character of words is outside if its zone is. -/
theorem Zone.leavesOutside_word {c : Char} (hc : isWordChar c = true) (z : Zone)
    (next : Option Char) : z.leavesOutside c next = (z == .outside) := by
  rw [leavesOutside, after_word hc]
  cases z <;> rfl

/-- Words character by character. -/
theorem IsWord.induct {motive : (u : Text) → IsWord u → Prop}
    (one : ∀ c (h : IsWord [c]), isWordChar c = true → motive [c] h)
    (cons : ∀ c v (h : IsWord (c :: v)) (hv : IsWord v), isWordChar c = true → motive v hv →
      motive (c :: v) h)
    {u : Text} (hu : IsWord u) : motive u hu := by
  induction u with
  | nil => exact absurd rfl hu.1
  | cons c u ih =>
    have hc : isWordChar c = true := hu.2 c List.mem_cons_self
    cases u with
    | nil => exact one c hu hc
    | cons d u =>
      have hv : IsWord (d :: u) :=
        ⟨List.cons_ne_nil _ _, fun e he => hu.2 e (List.mem_cons_of_mem _ he)⟩
      exact cons c _ hu hv hc (ih hv)

namespace IsWord

variable {u : Text} (hu : IsWord u)
include hu

/-- No pattern that begins with punctuation begins at a word. -/
theorem stripPrefix? {c : Char} (hc : isWordChar c = false) (p s : Text) :
    Text.stripPrefix? (c :: p) (u ++ s) = none := by
  obtain ⟨d, v, rfl⟩ := List.exists_cons_of_ne_nil hu.1
  exact Text.stripPrefix?_eq_none_of_head (ne_of_isWordChar (hu.2 d List.mem_cons_self) hc)

/-- A cut at what begins with no character of words is made behind the word. -/
theorem cutAt? {c : Char} (hc : isWordChar c = false) (p s : Text) :
    Text.cutAt? (c :: p) (u ++ s) = (Text.cutAt? (c :: p) s).map fun x => (u ++ x.1, x.2) := by
  have hone : ∀ d, isWordChar d = true → ∀ s, Text.cutAt? (c :: p) (d :: s) =
      (Text.cutAt? (c :: p) s).map fun x => (d :: x.1, x.2) := by
    intro d hd s
    rw [Text.cutAt?, Text.stripPrefix?_eq_none_of_head (ne_of_isWordChar hd hc)]
  induction hu using IsWord.induct with
  | one d _ hd => exact hone d hd s
  | cons d v _ _ hd ih =>
    rw [List.cons_append, hone d hd, ih, Option.map_map]
    rfl

/-- Brackets are counted, words are not. -/
theorem cutClosed? (depth : Nat) (s : Text) :
    Text.cutClosed? depth (u ++ s) = (Text.cutClosed? depth s).map fun x => (u ++ x.1, x.2) := by
  have hone : ∀ d, isWordChar d = true → ∀ s, Text.cutClosed? depth (d :: s) =
      (Text.cutClosed? depth s).map fun x => (d :: x.1, x.2) := fun d hd s =>
    Text.cutClosed?_cons (ne_of_isWordChar hd rfl) (ne_of_isWordChar hd rfl) depth s
  induction hu using IsWord.induct with
  | one d _ hd => exact hone d hd s
  | cons d v _ _ hd ih =>
    rw [List.cons_append, hone d hd, ih, Option.map_map]
    rfl

/-- A cut outside of literals and references, too, is made behind the word. -/
theorem cutOutside? {c : Char} (hc : isWordChar c = false) (p : Text) (z : Zone) (s : Text) :
    Text.cutOutside? (c :: p) z (u ++ s) =
      (Text.cutOutside? (c :: p) z.behindWord s).map fun x => (u ++ x.1, x.2) := by
  have hone : ∀ d, isWordChar d = true → ∀ z s, Text.cutOutside? (c :: p) z (d :: s) =
      (Text.cutOutside? (c :: p) z.behindWord s).map fun x => (d :: x.1, x.2) := by
    intro d hd z s
    rw [Text.cutOutside?, Text.stripPrefix?_eq_none_of_head (ne_of_isWordChar hd hc), ite_self,
      Zone.after_word hd]
  induction hu using IsWord.induct generalizing z with
  | one d _ hd => exact hone d hd z s
  | cons d v _ _ hd ih =>
    rw [List.cons_append, hone d hd, ih, Zone.behindWord_behindWord, Option.map_map]
    rfl

/-- A word in front stands outside, or something behind it does. -/
theorem hasOutside (z : Zone) (s : Text) :
    Text.hasOutside z (u ++ s) = (z == .outside || Text.hasOutside z.behindWord s) := by
  have hone : ∀ d, isWordChar d = true → ∀ z s, Text.hasOutside z (d :: s) =
      (z == .outside || Text.hasOutside z.behindWord s) := by
    intro d hd z s
    rw [Text.hasOutside, Zone.leavesOutside_word hd, Zone.after_word hd]
  induction hu using IsWord.induct generalizing z with
  | one d _ hd => exact hone d hd z s
  | cons d v _ _ hd ih =>
    rw [List.cons_append, hone d hd, ih, Zone.behindWord_behindWord]
    cases z <;> rfl

/-- A word in front stays when the end is trimmed. -/
theorem trimEnd (s : Text) : Text.trimEnd (u ++ s) = u ++ Text.trimEnd s := by
  have hone : ∀ d, isWordChar d = true → ∀ s, Text.trimEnd (d :: s) = d :: Text.trimEnd s := by
    intro d hd s
    have hblank := isBlank_eq_false_of_isNameChar (isNameChar_of_isWordChar hd)
    rw [Text.trimEnd_cons, hblank, if_neg fun h => Bool.false_ne_true h.2]
  induction hu using IsWord.induct with
  | one d _ hd => exact hone d hd s
  | cons d v _ _ hd ih =>
    rw [List.cons_append, hone d hd, ih]
    rfl

end IsWord

/-! ### Cutting marked texts -/

/-- The name of a local is a word. -/
theorem isWord_of_isLocalName {w : Text} (hw : isLocalName w = true) : IsWord w := by
  obtain ⟨hall, c, rest, hform, -, -⟩ := isLocalName_spec hw
  exact ⟨hform ▸ List.cons_ne_nil _ _, hall⟩

/-- A replaced name is a word. -/
theorem isWord_replacedName {w : Text} (hw : isLocalName w = true) :
    IsWord (Substitution.replacedName w) :=
  ⟨List.cons_ne_nil _ _, fun _ => isWordChar_of_mem_replacedName hw⟩

/-- A beginning that the mark cannot take part in: at no place where a word may begin does the
mark agree with it. -/
def unmarkable : Bool → Text → Bool
  | _, [] => true
  | run, c :: p =>
    (run || !(replacedMark.isPrefixOf (c :: p) || (c :: p).isPrefixOf replacedMark)) &&
      unmarkable (isWordChar c) p

/-- Two pieces of a text and of the marked text that belong together. -/
def MarkedPieces (w : Text) (run : Bool) (x y : Text × Text) : Prop :=
  Marked w run x.1 y.1 ∧ Marked w false x.2 y.2

namespace Marked

variable {w : Text} {run : Bool} {s s' : Text}

/-- **An unmarkable beginning** was there before. -/
theorem stripPrefix {p t r' : Text} (hp : unmarkable run p = true) (h : Marked w run s t)
    (ht : t = p ++ r') : ∃ r, s = p ++ r ∧ Marked w false r r' := by
  induction p generalizing run s t with
  | nil =>
    rw [List.nil_append] at ht
    exact ⟨s, rfl, ht ▸ h.relax⟩
  | cons c p ih =>
    rw [unmarkable, Bool.and_eq_true] at hp
    cases h with
    | nil => cases ht
    | char h =>
      obtain ⟨rfl, htail⟩ := List.cons.inj ht
      obtain ⟨r, rfl, hr⟩ := ih hp.2 h htail
      exact ⟨r, rfl, hr⟩
    | word hend h =>
      rw [replacedName_eq, List.append_assoc] at ht
      have hagree :
          (replacedMark.isPrefixOf (c :: p) || (c :: p).isPrefixOf replacedMark) = true := by
        rw [Bool.or_eq_true, List.isPrefixOf_iff_prefix, List.isPrefixOf_iff_prefix]
        obtain ⟨m, hm, -⟩ | ⟨m, hm, -⟩ := List.append_eq_append_iff.1 ht
        · exact .inl ⟨m, hm.symm⟩
        · exact .inr ⟨m, hm.symm⟩
      rw [hagree] at hp
      cases hp.1

/-- An unmarkable text is what it was. -/
theorem eq_of_unmarkable {p : Text} (hp : unmarkable run p = true) (h : Marked w run s p) :
    s = p := by
  obtain ⟨r, rfl, hr⟩ := h.stripPrefix hp (List.append_nil p).symm
  cases hr
  exact List.append_nil p

/-- A piece in front of the rest of a marked text ends words as the text does. -/
theorem head?_eq_of_begins {a : Text} (ha : a <+: s) (hs : ∀ c ∈ s.head?, isWordChar c = false) :
    ∀ c ∈ a.head?, isWordChar c = false := by
  obtain ⟨t, rfl⟩ := ha
  cases a with
  | nil => simp
  | cons c a => exact hs

/-- One character more in front of the first piece. -/
theorem map_cons {c : Char} {x y : Option (Text × Text)}
    (h : Option.Rel (MarkedPieces w (isWordChar c)) x y) :
    Option.Rel (MarkedPieces w run) (x.map fun p => (c :: p.1, p.2))
      (y.map fun p => (c :: p.1, p.2)) := by
  cases h with
  | none => exact .none
  | some h => exact .some ⟨.char h.1, h.2⟩

/-- A marked word more in front of the first piece. -/
theorem map_word {x y : Option (Text × Text)} (h : Option.Rel (MarkedPieces w true) x y)
    (hend : ∀ c ∈ s.head?, isWordChar c = false) (hx : ∀ a b, x = some (a, b) → a <+: s) :
    Option.Rel (MarkedPieces w false) (x.map fun p => (w ++ p.1, p.2))
      (y.map fun p => (Substitution.replacedName w ++ p.1, p.2)) := by
  cases h with
  | none => exact .none
  | @some p q h => exact .some ⟨.word (head?_eq_of_begins (hx p.1 p.2 rfl) hend) h.1, h.2⟩

variable (hw : isLocalName w = true)
include hw

/-- Literals and references open at the same places. -/
theorem opensReference_head? (h : Marked w run s s') :
    Zone.opensReference s.head? = Zone.opensReference s'.head? := by
  cases h with
  | nil => rfl
  | char h => rfl
  | @word s s' hend h =>
    obtain ⟨-, c, rest, hform, hc, hdigit⟩ := isLocalName_spec hw
    have hopen : Zone.opensReference (w ++ s).head? = true := by
      simp [hform, Zone.opensReference, hc, hdigit]
    rw [hopen]
    rfl

/-- Marking what follows changes no zone. -/
theorem after_head? (h : Marked w run s s') (z : Zone) (c : Char) :
    z.after c s.head? = z.after c s'.head? := by
  unfold Zone.after
  rw [h.opensReference_head? hw]

/-- Marking what follows does not change whether a character stands outside. -/
theorem leavesOutside_head? (h : Marked w run s s') (z : Zone) (c : Char) :
    z.leavesOutside c s.head? = z.leavesOutside c s'.head? := by
  rw [Zone.leavesOutside, Zone.leavesOutside, h.after_head? hw]

/-- A beginning without words. -/
theorem stripPrefix? {p : Text} (hp : ∀ c ∈ p, isWordChar c = false) (h : Marked w run s s') :
    Option.Rel (Marked w false) (Text.stripPrefix? p s) (Text.stripPrefix? p s') := by
  induction p generalizing run s s' with
  | nil => exact .some h.relax
  | cons c p ih =>
    rw [List.forall_mem_cons] at hp
    cases h with
    | nil => exact .none
    | @char _ d s s' h =>
      rw [Text.stripPrefix?, Text.stripPrefix?]
      split
      · exact ih hp.2 h
      · exact .none
    | word hend h =>
      rw [(isWord_of_isLocalName hw).stripPrefix? hp.1, (isWord_replacedName hw).stripPrefix? hp.1]
      exact .none

/-- **The first occurrence of a punctuation mark.** -/
theorem cutAtChar? {c : Char} (hc : isWordChar c = false) (h : Marked w run s s') :
    Option.Rel (MarkedPieces w run) (Text.cutAtChar? c s) (Text.cutAtChar? c s') := by
  by_cases hmem : c ∈ s
  · obtain ⟨a, b, rfl, ha⟩ := List.eq_append_cons_of_mem hmem
    obtain ⟨a', b', rfl, hmarked, hb⟩ := h.split_left hw hc rfl
    rw [Text.cutAtChar?_append ha, Text.cutAtChar?_append ((hmarked.mem_iff hw hc).not.1 ha)]
    exact .some ⟨hmarked, hb⟩
  · rw [Text.cutAtChar?_eq_none hmem, Text.cutAtChar?_eq_none ((h.mem_iff hw hc).not.1 hmem)]
    exact .none

/-- **The last occurrence of a punctuation mark.** -/
theorem cutAtLast? {c : Char} (hc : isWordChar c = false) (h : Marked w run s s') :
    Option.Rel (MarkedPieces w run) (Text.cutAtLast? c s) (Text.cutAtLast? c s') := by
  by_cases hmem : c ∈ s
  · obtain ⟨b, a, hform, hb⟩ := List.eq_append_cons_of_mem (List.mem_reverse.2 hmem)
    obtain rfl : s = a.reverse ++ c :: b.reverse := by
      rw [← List.reverse_inj, hform]
      simp
    obtain ⟨a', b', rfl, ha', hmarked⟩ := h.split_left hw hc rfl
    have hb : c ∉ b.reverse := by simpa using hb
    rw [Text.cutAtLast?_append _ hb, Text.cutAtLast?_append _ ((hmarked.mem_iff hw hc).not.1 hb)]
    exact .some ⟨ha', hmarked⟩
  · have hnone : ∀ {t : Text}, c ∉ t → Text.cutAtLast? c t = none := by
      intro t ht
      rw [Text.cutAtLast?, Text.cutAtChar?_eq_none (by simpa using ht), Option.map_none]
    rw [hnone hmem, hnone ((h.mem_iff hw hc).not.1 hmem)]
    exact .none

/-- **The first occurrence of a pattern without words.** -/
theorem cutAt? {c : Char} {p : Text} (hp : ∀ d ∈ c :: p, isWordChar d = false)
    (h : Marked w run s s') :
    Option.Rel (MarkedPieces w run) (Text.cutAt? (c :: p) s) (Text.cutAt? (c :: p) s') := by
  induction h with
  | nil => exact .none
  | @char run d s s' h ih =>
    have hstrip := (Marked.char h : Marked w run (d :: s) (d :: s')).stripPrefix? hw hp
    rw [Text.cutAt?, Text.cutAt?]
    generalize Text.stripPrefix? (c :: p) (d :: s) = here at hstrip ⊢
    generalize Text.stripPrefix? (c :: p) (d :: s') = here' at hstrip ⊢
    cases hstrip with
    | some hrest => exact .some ⟨.nil, hrest⟩
    | none => exact map_cons ih
  | @word s s' hend h ih =>
    have hc : isWordChar c = false := hp c List.mem_cons_self
    rw [(isWord_of_isLocalName hw).cutAt? hc, (isWord_replacedName hw).cutAt? hc]
    refine map_word ih hend fun a b hcut => ?_
    rw [Text.cutAt?_eq_some hcut, List.append_assoc]
    exact List.prefix_append _ _

/-- **The first occurrence outside of a pattern without words.** -/
theorem cutOutside? {c : Char} {p : Text} (hp : ∀ d ∈ c :: p, isWordChar d = false)
    (h : Marked w run s s') (z : Zone) :
    Option.Rel (MarkedPieces w run) (Text.cutOutside? (c :: p) z s)
      (Text.cutOutside? (c :: p) z s') := by
  induction h generalizing z with
  | nil => exact .none
  | @char run d s s' h ih =>
    have hstrip : Option.Rel (Marked w false)
        (if z.leavesOutside d s'.head? then Text.stripPrefix? (c :: p) (d :: s) else none)
        (if z.leavesOutside d s'.head? then Text.stripPrefix? (c :: p) (d :: s') else none) := by
      split
      · exact (Marked.char h : Marked w run (d :: s) (d :: s')).stripPrefix? hw hp
      · exact .none
    rw [Text.cutOutside?, Text.cutOutside?, h.leavesOutside_head? hw, h.after_head? hw]
    revert hstrip
    generalize (if z.leavesOutside d s'.head? then Text.stripPrefix? (c :: p) (d :: s) else none) =
      here
    generalize (if z.leavesOutside d s'.head? then Text.stripPrefix? (c :: p) (d :: s') else none) =
      here'
    intro hstrip
    cases hstrip with
    | some hrest => exact .some ⟨.nil, hrest⟩
    | none => exact map_cons (ih _)
  | @word s s' hend h ih =>
    have hc : isWordChar c = false := hp c List.mem_cons_self
    rw [(isWord_of_isLocalName hw).cutOutside? hc, (isWord_replacedName hw).cutOutside? hc]
    refine map_word (ih _) hend fun a b hcut => ?_
    rw [Text.cutOutside?_eq_some hcut, List.append_assoc]
    exact List.prefix_append _ _

/-- Something stands outside the marked text exactly if something does without the marks. -/
theorem hasOutside (h : Marked w run s s') (z : Zone) :
    Text.hasOutside z s = Text.hasOutside z s' := by
  induction h generalizing z with
  | nil => rfl
  | char h ih =>
    rw [Text.hasOutside, Text.hasOutside, h.leavesOutside_head? hw, h.after_head? hw, ih]
  | word hend h ih =>
    rw [(isWord_of_isLocalName hw).hasOutside, (isWord_replacedName hw).hasOutside, ih]

/-- **The bracket that closes a reference.** -/
theorem cutClosed? (h : Marked w run s s') (depth : Nat) :
    Option.Rel (MarkedPieces w run) (Text.cutClosed? depth s) (Text.cutClosed? depth s') := by
  induction h generalizing depth with
  | nil =>
    rw [Text.cutClosed?.eq_def]
    exact .none
  | @char run d s s' h ih =>
    by_cases hopen : d = '<'
    · subst hopen
      rw [Text.cutClosed?_open, Text.cutClosed?_open]
      exact map_cons (ih _)
    · by_cases hclose : d = '>'
      · subst hclose
        cases depth with
        | zero =>
          rw [Text.cutClosed?_unopened, Text.cutClosed?_unopened]
          exact .none
        | succ depth =>
          cases depth with
          | zero =>
            rw [Text.cutClosed?_last, Text.cutClosed?_last]
            exact .some ⟨.refl w run _, h.relax⟩
          | succ depth =>
            rw [Text.cutClosed?_close, Text.cutClosed?_close]
            exact map_cons (ih _)
      · rw [Text.cutClosed?_cons hopen hclose, Text.cutClosed?_cons hopen hclose]
        exact map_cons (ih _)
  | @word s s' hend h ih =>
    rw [(isWord_of_isLocalName hw).cutClosed?, (isWord_replacedName hw).cutClosed?]
    refine map_word (ih _) hend fun a b hcut => ?_
    rw [Text.cutClosed?_eq_some hcut]
    exact List.prefix_append _ _

/-! ### White space -/

/-- The beginning of a marked text is trimmed as before. -/
theorem trimStart (h : Marked w run s s') :
    Marked w false (Text.trimStart s) (Text.trimStart s') := by
  rw [Text.trimStart, Text.trimStart]
  induction h with
  | nil => exact .nil
  | @char run c s s' h ih =>
    rw [List.dropWhile_cons, List.dropWhile_cons]
    split
    · exact ih
    · exact .char h
  | @word s s' hend h ih =>
    have hkeep : ∀ {u : Text}, IsWord u → ∀ t, (u ++ t).dropWhile isBlank = u ++ t := by
      intro u hu t
      obtain ⟨d, v, rfl⟩ := List.exists_cons_of_ne_nil hu.1
      have hblank := isBlank_eq_false_of_isNameChar
        (isNameChar_of_isWordChar (hu.2 d List.mem_cons_self))
      rw [List.cons_append, List.dropWhile_cons_of_neg (by simp [hblank])]
    rw [hkeep (isWord_of_isLocalName hw), hkeep (isWord_replacedName hw)]
    exact .word hend h

/-- The end of a marked text is trimmed as before. -/
theorem trimEnd (h : Marked w run s s') : Marked w run (Text.trimEnd s) (Text.trimEnd s') := by
  induction h with
  | nil => exact .nil
  | @char run c s s' h ih =>
    have hempty := ih.eq_nil_iff hw
    rw [Text.trimEnd_cons, Text.trimEnd_cons]
    by_cases hs : Text.trimEnd s = [] ∧ isBlank c = true
    · rw [if_pos hs, if_pos ⟨hempty.1 hs.1, hs.2⟩]
      exact .nil
    · rw [if_neg hs, if_neg fun hs' => hs ⟨hempty.2 hs'.1, hs'.2⟩]
      exact .char ih
  | @word s s' hend h ih =>
    rw [(isWord_of_isLocalName hw).trimEnd, (isWord_replacedName hw).trimEnd]
    exact .word (head?_eq_of_begins (Text.trimEnd_prefix s) hend) ih

/-- **White space around the text.** -/
theorem trim (h : Marked w run s s') : Marked w false (Text.trim s) (Text.trim s') :=
  (h.trimStart hw).trimEnd hw

/-- A beginning that every word may belong to is taken as before. -/
theorem takeWhile {p : Char → Bool} (hp : ∀ c, isWordChar c = true → p c = true)
    (h : Marked w run s s') : Marked w run (s.takeWhile p) (s'.takeWhile p) := by
  induction h with
  | nil => exact .nil
  | @char run c s s' h ih =>
    rw [List.takeWhile_cons, List.takeWhile_cons]
    split
    · exact .char ih
    · exact .nil
  | @word s s' hend h ih =>
    rw [List.takeWhile_append_of_pos fun c hc => hp c ((isWord_of_isLocalName hw).2 c hc),
      List.takeWhile_append_of_pos fun c hc => hp c ((isWord_replacedName hw).2 c hc)]
    exact .word (head?_eq_of_begins (List.takeWhile_prefix p) hend) ih

/-- A beginning that every word may belong to is dropped as before. -/
theorem dropWhile {p : Char → Bool} (hp : ∀ c, isWordChar c = true → p c = true)
    (h : Marked w run s s') : Marked w false (s.dropWhile p) (s'.dropWhile p) := by
  induction h with
  | nil => exact .nil
  | @char run c s s' h ih =>
    rw [List.dropWhile_cons, List.dropWhile_cons]
    split
    · exact ih
    · exact .char h
  | @word s s' hend h ih =>
    rw [List.dropWhile_append_of_pos fun c hc => hp c ((isWord_of_isLocalName hw).2 c hc),
      List.dropWhile_append_of_pos fun c hc => hp c ((isWord_replacedName hw).2 c hc)]
    exact ih

end Marked

end Weaver
