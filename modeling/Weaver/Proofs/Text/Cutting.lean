import Mathlib.Data.List.Basic
import Weaver.Text.Alphanumeric
import Weaver.Text.Blank

/-!
# Cutting Undoes Joining

Every way of cutting a text finds the place where two texts were put together, provided
that what it looks for does not occur earlier (or later, when it looks for the last
occurrence).

## Main results

* `Text.stripPrefix?_eq_some_iff`, `Text.stripSuffix?_eq_some_iff`: fixed beginnings and ends.
* `Text.cutAtChar?_append`, `Text.cutAtLast?_append`, `Text.cutAt?_append`, `Text.cutAt?_pair`:
  **cutting at a seam**.
* `Text.splitOn_join`, `Text.words_append`, `Text.lines_flatMap`: lists of pieces.
* `Text.IsTight.trim_eq`: white space in the middle is kept.
-/

namespace Weaver.Text

/-- What holds of all characters of a text is **decided on the text**, whatever else is known
about all characters. -/
instance (priority := high) decidableForallMem (s : Text) (p : Char → Prop) [DecidablePred p] :
    Decidable (∀ c ∈ s, p c) :=
  List.decidableBAll p s

/-! ### Fixed beginnings and ends -/

/-- Cutting off a beginning leaves what stands behind it. -/
theorem stripPrefix?_eq_some_iff {p s rest : Text} :
    stripPrefix? p s = some rest ↔ s = p ++ rest := by
  induction p generalizing s with
  | nil => simp [stripPrefix?]
  | cons a p ih =>
    cases s with
    | nil => simp [stripPrefix?]
    | cons b s =>
      rw [stripPrefix?]
      split
      next h => rw [ih, h, List.cons_append, List.cons.injEq, and_iff_right rfl]
      next h =>
        simp only [reduceCtorEq, List.cons_append, List.cons.injEq, false_iff, not_and]
        exact fun hb => absurd hb.symm h

@[simp] theorem stripPrefix?_append (p rest : Text) : stripPrefix? p (p ++ rest) = some rest :=
  stripPrefix?_eq_some_iff.2 rfl

/-- Nothing is cut off from texts that begin otherwise. -/
theorem stripPrefix?_eq_none_iff {p s : Text} :
    stripPrefix? p s = none ↔ ∀ rest, s ≠ p ++ rest := by
  rw [Option.eq_none_iff_forall_ne_some]
  exact forall_congr' fun rest => not_congr stripPrefix?_eq_some_iff

/-- Cutting off an end leaves what stands in front of it. -/
theorem stripSuffix?_eq_some_iff {p s rest : Text} :
    stripSuffix? p s = some rest ↔ s = rest ++ p := by
  rw [stripSuffix?, Option.map_eq_some_iff]
  constructor
  · rintro ⟨r, hr, rfl⟩
    rw [stripPrefix?_eq_some_iff] at hr
    rw [← List.reverse_inj, hr]
    simp
  · rintro rfl
    exact ⟨rest.reverse, by rw [List.reverse_append, stripPrefix?_append], List.reverse_reverse _⟩

@[simp] theorem stripSuffix?_append (p rest : Text) : stripSuffix? p (rest ++ p) = some rest :=
  stripSuffix?_eq_some_iff.2 rfl

/-- Nothing is cut off from texts that end otherwise. -/
theorem stripSuffix?_eq_none_iff {p s : Text} :
    stripSuffix? p s = none ↔ ∀ rest, s ≠ rest ++ p := by
  rw [Option.eq_none_iff_forall_ne_some]
  exact forall_congr' fun rest => not_congr stripSuffix?_eq_some_iff

/-- A text that lacks a character of `p` does not begin with `p`. -/
theorem stripPrefix?_eq_none_of_not_mem {c : Char} {p s : Text} (hp : c ∈ p) (hs : c ∉ s) :
    stripPrefix? p s = none := by
  rw [stripPrefix?_eq_none_iff]
  rintro rest rfl
  exact hs (List.mem_append_left _ hp)

/-- A text that lacks a character of `p` does not end with `p`. -/
theorem stripSuffix?_eq_none_of_not_mem {c : Char} {p s : Text} (hp : c ∈ p) (hs : c ∉ s) :
    stripSuffix? p s = none := by
  rw [stripSuffix?_eq_none_iff]
  rintro rest rfl
  exact hs (List.mem_append_right _ hp)

/-- A text with another first character does not begin with `p`. -/
theorem stripPrefix?_eq_none_of_head {c d : Char} {p s : Text} (h : d ≠ c) :
    stripPrefix? (c :: p) (d :: s) = none := by
  rw [stripPrefix?, if_neg h.symm]

/-- A prefix ends before a character that it lacks. -/
theorem stripPrefix?_append_cons {c : Char} {p : Text} (hp : c ∉ p) (a rest : Text) :
    stripPrefix? p (a ++ c :: rest) = (stripPrefix? p a).map (· ++ c :: rest) := by
  induction p generalizing a with
  | nil => rfl
  | cons d p ih =>
    obtain ⟨hd, hp⟩ : c ≠ d ∧ c ∉ p := by simpa using hp
    cases a with
    | nil => exact stripPrefix?_eq_none_of_head hd
    | cons e a =>
      rw [List.cons_append, stripPrefix?, stripPrefix?]
      split
      · exact ih hp a
      · rfl

/-- What follows a text that is long enough for a prefix does not matter to it. -/
theorem stripPrefix?_append_of_length {p s : Text} (h : p.length ≤ s.length) (rest : Text) :
    stripPrefix? p (s ++ rest) = (stripPrefix? p s).map (· ++ rest) := by
  induction p generalizing s with
  | nil => rfl
  | cons d p ih =>
    cases s with
    | nil => cases h
    | cons e s =>
      rw [List.cons_append, stripPrefix?, stripPrefix?]
      split
      · exact ih (Nat.le_of_succ_le_succ h)
      · rfl

/-- The end of the text does not matter to a prefix that ends before. -/
theorem startsWith_append_cons {c : Char} {p : Text} (hp : c ∉ p) (a rest : Text) :
    startsWith (a ++ c :: rest) p = startsWith a p := by
  rw [startsWith, stripPrefix?_append_cons hp, Option.isSome_map, startsWith]

/-- A text with another first character begins otherwise. -/
theorem startsWith_of_head {c d : Char} {p s : Text} (h : d ≠ c) :
    startsWith (d :: s) (c :: p) = false := by
  rw [startsWith, stripPrefix?_eq_none_of_head h]
  rfl

/-! ### Cutting at a seam -/

/-- The cut is at the first occurrence. -/
theorem cutAtChar?_append {c : Char} {a : Text} (ha : c ∉ a) (b : Text) :
    cutAtChar? c (a ++ c :: b) = some (a, b) := by
  induction a with
  | nil => simp [cutAtChar?]
  | cons d a ih =>
    obtain ⟨hd, ha⟩ : c ≠ d ∧ c ∉ a := by simpa using ha
    rw [List.cons_append, cutAtChar?, if_neg hd.symm, ih ha, Option.map_some]

/-- A text is not cut at a character that is not in it. -/
theorem cutAtChar?_eq_none {c : Char} {s : Text} (hs : c ∉ s) : cutAtChar? c s = none := by
  induction s with
  | nil => rfl
  | cons d s ih =>
    obtain ⟨hd, hs⟩ : c ≠ d ∧ c ∉ s := by simpa using hs
    rw [cutAtChar?, if_neg hd.symm, ih hs, Option.map_none]

/-- The parts of a text that is cut at a character, which is not in the first one. -/
theorem cutAtChar?_eq_some {c : Char} {s a b : Text} (h : cutAtChar? c s = some (a, b)) :
    s = a ++ c :: b ∧ c ∉ a := by
  induction s generalizing a with
  | nil => cases h
  | cons d s ih =>
    rw [cutAtChar?] at h
    split at h
    next hd =>
      obtain ⟨rfl, rfl⟩ := Prod.mk.inj (Option.some.inj h)
      exact ⟨by rw [hd]; rfl, List.not_mem_nil⟩
    next hd =>
      obtain ⟨⟨a', b'⟩, hcut, heq⟩ := Option.map_eq_some_iff.1 h
      obtain ⟨rfl, rfl⟩ := Prod.mk.inj heq
      obtain ⟨rfl, ha⟩ := ih hcut
      exact ⟨rfl, by simpa [ha] using fun h => hd h.symm⟩

/-- A text does not begin with another first word. -/
theorem stripPrefix?_eq_none_of_word {c : Char} (word : Text) {w : Text} (hword : c ∉ word)
    (hw : c ∉ w) (hne : w ≠ word) (rest : Text) :
    stripPrefix? (word ++ [c]) (w ++ c :: rest) = none := by
  rw [stripPrefix?_eq_none_iff]
  intro tail h
  have hform : word ++ [c] ++ tail = word ++ c :: tail := by simp
  have hcut := cutAtChar?_append hw rest
  rw [h, hform, cutAtChar?_append hword, Option.some.injEq, Prod.mk.injEq] at hcut
  exact hne hcut.1.symm

/-- The cut is at the last occurrence. -/
theorem cutAtLast?_append {c : Char} {b : Text} (a : Text) (hb : c ∉ b) :
    cutAtLast? c (a ++ c :: b) = some (a, b) := by
  have hrev : (a ++ c :: b).reverse = b.reverse ++ c :: a.reverse := by simp
  rw [cutAtLast?, hrev, cutAtChar?_append (by simpa using hb)]
  simp

/-- The parts of a text that is cut at its last occurrence of a character, which is not in the
second one. -/
theorem cutAtLast?_eq_some {c : Char} {s a b : Text} (h : cutAtLast? c s = some (a, b)) :
    s = a ++ c :: b ∧ c ∉ b := by
  rw [cutAtLast?, Option.map_eq_some_iff] at h
  obtain ⟨⟨b', a'⟩, hcut, heq⟩ := h
  obtain ⟨rfl, rfl⟩ := Prod.mk.inj heq
  obtain ⟨hs, hb⟩ := cutAtChar?_eq_some hcut
  exact ⟨by simpa using congrArg List.reverse hs, by simpa using hb⟩

/-- A text that is not cut at a character is without it. -/
theorem not_mem_of_cutAtLast? {c : Char} {s : Text} (h : cutAtLast? c s = none) : c ∉ s := by
  intro hc
  obtain ⟨a, b, hs, hb⟩ := List.eq_append_cons_of_mem (List.mem_reverse.2 hc)
  rw [cutAtLast?, hs, cutAtChar?_append hb] at h
  cases h

/-- The cut is at the first place where the text to cut out can begin. -/
theorem cutAt?_append {c : Char} {p a : Text} (ha : c ∉ a) (b : Text) :
    cutAt? (c :: p) (a ++ (c :: p) ++ b) = some (a, b) := by
  induction a with
  | nil => simp [cutAt?, stripPrefix?, stripPrefix?_append]
  | cons d a ih =>
    obtain ⟨hd, ha⟩ : c ≠ d ∧ c ∉ a := by simpa using ha
    rw [List.append_assoc, List.cons_append, cutAt?, stripPrefix?_eq_none_of_head hd.symm,
      ← List.append_assoc, ih ha]
    rfl

/-- A text contains what stands in the middle of it. -/
theorem contains_of_infix {p s : Text} (h : p <:+: s) : contains s p = true := by
  obtain ⟨a, b, rfl⟩ := h
  induction a with
  | nil =>
    have hhead : stripPrefix? p (p ++ b) = some b := stripPrefix?_append p b
    cases hs : p ++ b with
    | nil =>
      obtain ⟨rfl, rfl⟩ := List.append_eq_nil_iff.1 hs
      rfl
    | cons c s =>
      rw [hs] at hhead
      simp [contains, hs, cutAt?, hhead]
  | cons c a ih =>
    rw [contains, List.cons_append, List.cons_append, cutAt?]
    split
    · rfl
    · rw [Option.isSome_map]
      exact ih

/-- The cut is at the front, or **one character further back**. -/
theorem cutAt?_cons_eq_some {c : Char} {p s a b : Text} (h : cutAt? p (c :: s) = some (a, b)) :
    (a = [] ∧ c :: s = p ++ b) ∨
      ∃ a', a = c :: a' ∧ (∀ rest, c :: s ≠ p ++ rest) ∧ cutAt? p s = some (a', b) := by
  rw [cutAt?] at h
  split at h
  next rest hrest =>
    obtain ⟨rfl, rfl⟩ := Prod.mk.inj (Option.some.inj h)
    exact .inl ⟨rfl, stripPrefix?_eq_some_iff.1 hrest⟩
  next hmiss =>
    obtain ⟨⟨a', b'⟩, hcut, heq⟩ := Option.map_eq_some_iff.1 h
    obtain ⟨rfl, rfl⟩ := Prod.mk.inj heq
    exact .inr ⟨a', rfl, stripPrefix?_eq_none_iff.1 hmiss, hcut⟩

/-- The parts of a text that is cut at another one stand around it. -/
theorem cutAt?_eq_some {p s a b : Text} (h : cutAt? p s = some (a, b)) : s = a ++ p ++ b := by
  induction s generalizing a with
  | nil =>
    rw [cutAt?] at h
    split at h
    next hp =>
      obtain ⟨rfl, rfl⟩ := Prod.mk.inj (Option.some.inj h)
      rw [hp]
      rfl
    next hp => cases h
  | cons c s ih =>
    obtain ⟨rfl, hs⟩ | ⟨a', rfl, -, hcut⟩ := cutAt?_cons_eq_some h
    · exact hs
    · rw [ih hcut]
      rfl

/-- What stands in front of the cut has no occurrence of `p`: **the cut is at the first one**. -/
theorem not_isInfix_of_cutAt? {p s a b : Text} (hp : p ≠ []) (h : cutAt? p s = some (a, b)) :
    ¬ p <:+: a := by
  induction s generalizing a with
  | nil => simp [cutAt?, hp] at h
  | cons c s ih =>
    obtain ⟨rfl, -⟩ | ⟨a', rfl, hmiss, hcut⟩ := cutAt?_cons_eq_some h
    · exact fun hpart => hp (List.infix_nil.1 hpart)
    · rw [List.infix_cons_iff, not_or]
      refine ⟨?_, ih hcut⟩
      rintro ⟨rest, hrest⟩
      refine hmiss (rest ++ p ++ b) ?_
      rw [cutAt?_eq_some hcut, ← List.append_assoc, ← List.append_assoc, hrest]
      rfl

/-- Two different characters are found at their first occurrence, **whatever else** of them stands
in front of it. -/
theorem cutAt?_pair {c d : Char} (hne : c ≠ d) {a : Text} (ha : ¬ [c, d] <:+: a) (b : Text) :
    cutAt? [c, d] (a ++ [c, d] ++ b) = some (a, b) := by
  induction a with
  | nil => simp [cutAt?, stripPrefix?]
  | cons e a ih =>
    rw [List.infix_cons_iff, not_or] at ha
    have hmiss : stripPrefix? [c, d] (e :: (a ++ [c, d] ++ b)) = none := by
      rw [stripPrefix?_eq_none_iff]
      intro rest heq
      cases a with
      | nil =>
        obtain ⟨-, heq, -⟩ : e = c ∧ c = d ∧ _ := by simpa using heq
        exact hne heq
      | cons f a =>
        obtain ⟨rfl, rfl, -⟩ : e = c ∧ f = d ∧ _ := by simpa using heq
        exact ha.1 ⟨a, rfl⟩
    rw [List.cons_append, List.cons_append, cutAt?, hmiss, ih ha.2]
    rfl

/-- A text that lacks a character of `p` has no occurrence of `p`. -/
theorem cutAt?_eq_none {c : Char} {p s : Text} (hp : c ∈ p) (hs : c ∉ s) :
    cutAt? p s = none := by
  induction s with
  | nil => rw [cutAt?, if_neg (List.ne_nil_of_mem hp)]
  | cons d s ih =>
    rw [cutAt?, stripPrefix?_eq_none_of_not_mem hp hs, ih (fun h => hs (List.mem_cons_of_mem _ h)),
      Option.map_none]

/-! ### Pieces between separators -/

/-- A text without separators is one piece. -/
theorem splitBy_of_forall {sep : Char → Bool} {s : Text} (hs : ∀ c ∈ s, sep c = false) :
    splitBy sep s = [s] := by
  induction s with
  | nil => rfl
  | cons c s ih =>
    rw [List.forall_mem_cons] at hs
    simp [splitBy, hs.1, ih hs.2]

/-- What stands in front of the first separator is the first piece. -/
theorem splitBy_append {sep : Char → Bool} {c : Char} {a : Text} (ha : ∀ d ∈ a, sep d = false)
    (hc : sep c = true) (b : Text) : splitBy sep (a ++ c :: b) = a :: splitBy sep b := by
  induction a with
  | nil => simp [splitBy, hc]
  | cons d a ih =>
    rw [List.forall_mem_cons] at ha
    simp [splitBy, ha.1, ih ha.2]

/-- What stands in front of the first occurrence is the first piece. -/
theorem splitOn_append {c : Char} {a : Text} (ha : c ∉ a) (b : Text) :
    splitOn c (a ++ c :: b) = a :: splitOn c b :=
  splitBy_append (fun d hd => beq_false_of_ne fun h : d = c => ha (h ▸ hd)) (beq_self_eq_true c) b

/-- A text without the separator is one piece. -/
theorem splitOn_of_not_mem {c : Char} {s : Text} (hs : c ∉ s) : splitOn c s = [s] :=
  splitBy_of_forall fun d hd => beq_false_of_ne fun h : d = c => hs (h ▸ hd)

/-- **Splitting at any separator.** -/
theorem splitOn_append_cons (c : Char) (a b : Text) :
    splitOn c (a ++ c :: b) = splitOn c a ++ splitOn c b := by
  induction hn : a.length using Nat.strongRecOn generalizing a with
  | _ n ih =>
    by_cases hc : c ∈ a
    · obtain ⟨a₁, a₂, rfl, hfirst⟩ := List.eq_append_cons_of_mem hc
      have hlength : a₂.length < n := by
        rw [← hn, List.length_append, List.length_cons]
        omega
      rw [List.append_assoc, List.cons_append, splitOn_append hfirst, splitOn_append hfirst,
        ih a₂.length hlength a₂ rfl, List.cons_append]
    · rw [splitOn_append hc, splitOn_of_not_mem hc, List.singleton_append]

/-- Splitting at the first character of the separator undoes joining; what else belongs to
the separator stays in front of the pieces behind the first. -/
theorem splitOn_join {c : Char} {sep : Text} (hsep : c ∉ sep) {s : Text} {rest : List Text}
    (h : ∀ t ∈ s :: rest, c ∉ t) :
    splitOn c (join (c :: sep) (s :: rest)) = s :: rest.map (sep ++ ·) := by
  induction rest generalizing s with
  | nil => rw [join, splitOn_of_not_mem (h s List.mem_cons_self), List.map_nil]
  | cons t rest ih =>
    have ht : ∀ u ∈ (sep ++ t) :: rest, c ∉ u := by
      intro u hu
      obtain rfl | hu := List.mem_cons.1 hu
      · simpa [hsep] using h t (by simp)
      · exact h u (by simp [hu])
    have hjoin : sep ++ join (c :: sep) (t :: rest) = join (c :: sep) ((sep ++ t) :: rest) := by
      cases rest <;> simp [join]
    rw [join, List.append_assoc, List.cons_append, splitOn_append (h s List.mem_cons_self), hjoin,
      ih ht, List.map_cons]
    simp

/-- There is always a piece. -/
theorem splitBy_ne_nil (sep : Char → Bool) (s : Text) : splitBy sep s ≠ [] := by
  cases s with
  | nil => exact List.cons_ne_nil _ _
  | cons c s =>
    rw [splitBy]
    split
    · exact List.cons_ne_nil _ _
    · split <;> exact List.cons_ne_nil _ _

/-- Every character but the separators stands in a piece. -/
theorem exists_mem_splitBy {sep : Char → Bool} {c : Char} {s : Text} (hc : c ∈ s)
    (hsep : sep c = false) : ∃ p ∈ splitBy sep s, c ∈ p := by
  induction s with
  | nil => cases hc
  | cons d s ih =>
    obtain ⟨first, rest, hrest⟩ := List.exists_cons_of_ne_nil (splitBy_ne_nil sep s)
    rw [splitBy]
    split
    next hd =>
      obtain rfl | hc := List.mem_cons.1 hc
      · rw [hsep] at hd
        cases hd
      · obtain ⟨p, hp, hmem⟩ := ih hc
        exact ⟨p, List.mem_cons_of_mem _ hp, hmem⟩
    next hd =>
      rw [hrest] at ih ⊢
      obtain rfl | hc := List.mem_cons.1 hc
      · exact ⟨c :: first, List.mem_cons_self, List.mem_cons_self⟩
      · obtain ⟨p, hp, hmem⟩ := ih hc
        obtain rfl | hp := List.mem_cons.1 hp
        · exact ⟨d :: p, List.mem_cons_self, List.mem_cons_of_mem _ hmem⟩
        · exact ⟨p, List.mem_cons_of_mem _ hp, hmem⟩

theorem join_cons_cons (sep s t : Text) (rest : List Text) :
    join sep (s :: t :: rest) = s ++ sep ++ join sep (t :: rest) :=
  rfl

/-- What stands in a joined text stands in a piece or in the separator. -/
theorem mem_join {c : Char} {sep : Text} {ts : List Text} (h : c ∈ join sep ts) :
    c ∈ sep ∨ ∃ t ∈ ts, c ∈ t := by
  induction ts with
  | nil => cases h
  | cons s rest ih =>
    cases rest with
    | nil => exact .inr ⟨s, List.mem_cons_self, h⟩
    | cons t rest =>
      rw [join_cons_cons, List.mem_append, List.mem_append] at h
      obtain (hs | hsep) | hrest := h
      · exact .inr ⟨s, List.mem_cons_self, hs⟩
      · exact .inl hsep
      · obtain hsep | ⟨u, hu, hc⟩ := ih hrest
        · exact .inl hsep
        · exact .inr ⟨u, List.mem_cons_of_mem _ hu, hc⟩

/-- A character that is in no piece and not in the separator is not in what is joined. -/
theorem not_mem_join {c : Char} {sep : Text} (hsep : c ∉ sep) {ts : List Text}
    (h : ∀ t ∈ ts, c ∉ t) : c ∉ join sep ts := by
  intro hmem
  obtain hmem | ⟨t, ht, hmem⟩ := mem_join hmem
  · exact hsep hmem
  · exact h t ht hmem

/-! ### Words -/

/-- A word ends at the first white space. -/
theorem words_append {w : Text} (hne : w ≠ []) (hw : ∀ c ∈ w, isBlank c = false) {c : Char}
    (hc : isBlank c = true) (rest : Text) : words (w ++ c :: rest) = w :: words rest := by
  rw [words, splitBy_append hw hc, List.filter_cons_of_pos (by simpa using hne), words]

/-- A text without white space is one word. -/
theorem words_of_forall {w : Text} (hne : w ≠ []) (hw : ∀ c ∈ w, isBlank c = false) :
    words w = [w] := by
  rw [words, splitBy_of_forall hw, List.filter_cons_of_pos (by simpa using hne), List.filter_nil]

/-- White space in front does not matter for words. -/
theorem words_cons_of_isBlank {c : Char} (hc : isBlank c = true) (s : Text) :
    words (c :: s) = words s := by
  rw [words, splitBy, if_pos hc, List.filter_cons_of_neg (by simp), words]

/-! ### Lines -/

/-- **The lines of a text that is put together from lines.** -/
theorem lines_flatMap {ls : List Text} (h : ∀ l ∈ ls, '\n' ∉ l) :
    lines (ls.flatMap (· ++ ['\n'])) = ls.map dropCarriageReturn := by
  induction ls with
  | nil => rfl
  | cons l ls ih =>
    rw [List.forall_mem_cons] at h
    have hrest := ih h.2
    rw [lines] at hrest ⊢
    rw [List.flatMap_cons, List.append_assoc, List.singleton_append, splitOn_append h.1]
    cases hp : splitOn '\n' (ls.flatMap (· ++ ['\n'])) with
    | nil =>
      rw [hp] at hrest
      cases ls with
      | nil => simp [splitOn, splitBy] at hp
      | cons l' ls => simp [linesOfPieces] at hrest
    | cons p ps => rw [linesOfPieces, ← hp, hrest, List.map_cons]; simp

/-! ### White space around a text -/

/-- White space in front is cut off. -/
theorem trimStart_append {a s : Text} (ha : ∀ c ∈ a, isBlank c = true) :
    trimStart (a ++ s) = trimStart s := by
  induction a with
  | nil => rfl
  | cons c a ih =>
    rw [List.forall_mem_cons] at ha
    rw [trimStart, List.cons_append, List.dropWhile_cons_of_pos ha.1]
    exact ih ha.2

/-- White space in front of a text is no part of what remains. -/
theorem trim_append {a s : Text} (ha : ∀ c ∈ a, isBlank c = true) : trim (a ++ s) = trim s := by
  rw [trim, trim, trimStart_append ha]

/-- A non-empty text without white space at its ends. -/
structure IsTight (s : Text) : Prop where
  head : ∃ c rest, s = c :: rest ∧ isBlank c = false
  last : ∃ rest c, s = rest ++ [c] ∧ isBlank c = false

/-- A text without white space has none around it. -/
theorem isTight_of_forall {s : Text} (hne : s ≠ []) (h : ∀ c ∈ s, isBlank c = false) :
    IsTight s where
  head := by
    obtain ⟨c, rest, rfl⟩ := List.exists_cons_of_ne_nil hne
    exact ⟨c, rest, rfl, h c List.mem_cons_self⟩
  last :=
    ⟨s.dropLast, s.getLast hne, (List.dropLast_append_getLast hne).symm, h _ (List.getLast_mem hne)⟩

/-- A text with no white space around it is not empty. -/
theorem IsTight.ne_nil {s : Text} (h : IsTight s) : s ≠ [] := by
  obtain ⟨c, rest, rfl, -⟩ := h.head
  exact List.cons_ne_nil c rest

/-- Whatever stands between two such texts, the whole is one. -/
theorem IsTight.append {a b : Text} (ha : IsTight a) (m : Text) (hb : IsTight b) :
    IsTight (a ++ m ++ b) where
  head := by
    obtain ⟨c, rest, rfl, hc⟩ := ha.head
    exact ⟨c, rest ++ m ++ b, by simp, hc⟩
  last := by
    obtain ⟨rest, c, rfl, hc⟩ := hb.last
    exact ⟨a ++ m ++ rest, c, by simp, hc⟩

/-- Such a text is **what remains of it** without the white space around it. -/
theorem IsTight.trim_eq {s : Text} (h : IsTight s) : trim s = s := by
  obtain ⟨c, rest, hs, hc⟩ := h.head
  obtain ⟨rest', d, hs', hd⟩ := h.last
  have hstart : s.dropWhile isBlank = s := by
    rw [hs, List.dropWhile_cons_of_neg (by simp [hc])]
  have hend : s.reverse.dropWhile isBlank = s.reverse := by
    rw [hs', List.reverse_append, List.reverse_singleton, List.singleton_append,
      List.dropWhile_cons_of_neg (by simp [hd])]
  rw [trim, trimStart, hstart, trimEnd, hend, List.reverse_reverse]

/-- What follows white space in such a text ends without any. -/
theorem IsTight.last_of_append {a b : Text} {c : Char} (h : IsTight (a ++ c :: b))
    (hc : isBlank c = true) : ∃ rest d, b = rest ++ [d] ∧ isBlank d = false := by
  obtain ⟨rest, d, hend, hd⟩ := h.last
  obtain rfl | ⟨front, e, rfl⟩ := List.eq_nil_or_concat' b
  · obtain ⟨-, heq⟩ := List.append_inj' hend rfl
    rw [List.singleton_inj.1 heq, hd] at hc
    cases hc
  · have hform : a ++ c :: (front ++ [e]) = (a ++ c :: front) ++ [e] := by simp
    obtain ⟨-, heq⟩ := List.append_inj' (hform.symm.trans hend) rfl
    exact ⟨front, e, rfl, List.singleton_inj.1 heq.symm ▸ hd⟩

/-- White space at the end, one character at a time. -/
theorem trimEnd_cons (c : Char) (s : Text) :
    trimEnd (c :: s) = if trimEnd s = [] ∧ isBlank c = true then [] else c :: trimEnd s := by
  have hform : trimEnd (c :: s) = ((s.reverse ++ [c]).dropWhile isBlank).reverse := by
    rw [trimEnd, List.reverse_cons]
  rw [hform, List.dropWhile_append, trimEnd]
  by_cases hs : s.reverse.dropWhile isBlank = []
  · by_cases hc : isBlank c = true <;> simp [hs, hc]
  · simp [hs]

/-- Cutting off white space at the end leaves a beginning. -/
theorem trimEnd_prefix (s : Text) : trimEnd s <+: s := by
  rw [trimEnd, ← List.reverse_suffix, List.reverse_reverse]
  exact List.dropWhile_suffix _

/-- What is left after dropping begins with what is not dropped. -/
theorem eq_false_of_dropWhile {p : Char → Bool} {s rest : Text} {c : Char}
    (h : s.dropWhile p = c :: rest) : p c = false := by
  have hhead := List.head?_dropWhile_not p s
  rwa [h] at hhead

/-- What remains without the white space around it has none at its ends. -/
theorem isTight_trim {s : Text} (h : trim s ≠ []) : IsTight (trim s) where
  head := by
    have hstart : trimStart s ≠ [] := fun hnil => h (by rw [trim, hnil]; rfl)
    obtain ⟨c, rest, hc⟩ := List.exists_cons_of_ne_nil hstart
    obtain ⟨d, rest', hd⟩ := List.exists_cons_of_ne_nil h
    have hbegins : trim s <+: c :: rest := hc ▸ trimEnd_prefix (trimStart s)
    rw [hd, List.cons_prefix_cons] at hbegins
    exact ⟨d, rest', hd, hbegins.1 ▸ eq_false_of_dropWhile hc⟩
  last := by
    have hend : (trimStart s).reverse.dropWhile isBlank ≠ [] := by
      rintro hnil
      exact h (by rw [trim, trimEnd, hnil]; rfl)
    obtain ⟨c, rest, hc⟩ := List.exists_cons_of_ne_nil hend
    exact ⟨rest.reverse, c, by rw [trim, trimEnd, hc, List.reverse_cons], eq_false_of_dropWhile hc⟩

/-- Trimming twice is trimming once. -/
theorem trim_trim (s : Text) : trim (trim s) = trim s := by
  by_cases h : trim s = []
  · rw [h]
    rfl
  · exact (isTight_trim h).trim_eq

/-- What remains without the white space around it stands in the text. -/
theorem isInfix_trim (s : Text) : trim s <:+: s := by
  have hbegins : trim s <+: trimStart s := trimEnd_prefix _
  exact hbegins.isInfix.trans (List.dropWhile_suffix _).isInfix

/-- Trimming brings no characters in. -/
theorem mem_of_mem_trim {c : Char} {s : Text} (h : c ∈ trim s) : c ∈ s :=
  (isInfix_trim s).subset h

/-- A text without white space stays as it is. -/
theorem trim_of_forall {s : Text} (h : ∀ c ∈ s, isBlank c = false) : trim s = s := by
  by_cases hne : s = []
  · rw [hne]
    rfl
  · exact (isTight_of_forall hne h).trim_eq

/-- What is not to be dropped is still there. -/
theorem mem_dropWhile_of_mem {p : Char → Bool} {c : Char} {s : Text} (hc : c ∈ s)
    (hp : p c = false) : c ∈ s.dropWhile p := by
  induction s with
  | nil => cases hc
  | cons d s ih =>
    rw [List.dropWhile_cons]
    split
    next hd =>
      refine ih ((List.mem_cons.1 hc).resolve_left ?_)
      rintro rfl
      rw [hp] at hd
      cases hd
    · exact hc

/-- Characters that are no white space remain. -/
theorem mem_trim_of_mem {c : Char} {s : Text} (hc : c ∈ s) (hblank : isBlank c = false) :
    c ∈ trim s := by
  rw [trim, trimEnd, List.mem_reverse]
  refine mem_dropWhile_of_mem ?_ hblank
  rw [List.mem_reverse]
  exact mem_dropWhile_of_mem hc hblank

end Weaver.Text
