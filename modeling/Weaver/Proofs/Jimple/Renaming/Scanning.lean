import Weaver.Proofs.Jimple.Bounds.Renamer
import Weaver.Proofs.Jimple.Tokens

/-!
# Renaming What a Scan Reports

A scan of verbatim code reports the characters that stand outside literals and references, with
their offsets. Among them are maximal runs of word characters, and those of these runs that equal a
word are what a renaming of it exchanges: the text is cut into gaps at exactly these places, and the
gaps are copied.

Quotes and brackets are no word characters. So a run is reported as a whole or not at all, and the
zone in front of it decides; this is what makes the runs that are reported the words among the
tokens of the text.

## Main definitions

* `Zone.behind`: the zone behind the beginning of a text.
* `Text.IsRun`: a maximal run of word characters.
* `Token.gaps`, `Text.CutBetween`: the gaps that a word leaves, and the places between them.
* `Text.ScanningLaw`: what a scan and a renaming have to do with each other.

## Main results

* `Text.mem_outsideIndices_append`: which characters are reported.
* `Text.charIndices_subset_or_disjoint`: a run is **reported as a whole or not at all**.
* `Text.exists_tokens_iff`: the words among the tokens are the runs that are reported.
* `Text.exists_scanningLaw`: a renaming **exchanges exactly what a scan reports**.
-/

namespace Weaver

open Utf8

/-! ### Places in a text -/

/-- The zone behind a text that `next` follows. -/
def Zone.behind : Zone → Text → Option Char → Zone
  | z, [], _ => z
  | z, c :: s, next => behind (z.after c (s.head?.or next)) s next

/-- The zone behind two texts is reached through the first one. -/
theorem Zone.behind_append (z : Zone) (s t : Text) (next : Option Char) :
    z.behind (s ++ t) next = (z.behind s (t.head?.or next)).behind t next := by
  induction s generalizing z with
  | nil => rfl
  | cons c s ih => rw [List.cons_append, behind, behind, ih, List.head?_append, Option.or_assoc]

/-- Word characters lead neither outside nor away from there. -/
theorem Zone.behind_word_iff {u : Text} (hu : ∀ c ∈ u, isWordChar c = true) (z : Zone)
    (next : Option Char) : z.behind u next = .outside ↔ z = .outside := by
  induction u generalizing z with
  | nil => rfl
  | cons c u ih =>
    rw [List.forall_mem_cons] at hu
    rw [behind, ih hu.2, after_word hu.1]
    cases z <;> simp [behindWord]

namespace Text

/-- The characters of a text stand at their offsets. -/
theorem mem_charIndices {offset : Nat} {s : Text} {p : Nat × Char} :
    p ∈ charIndices offset s ↔ ∃ u v, s = u ++ p.2 :: v ∧ p.1 = offset + length u := by
  induction s generalizing offset with
  | nil => simp [charIndices]
  | cons c s ih =>
    rw [charIndices, List.mem_cons, ih]
    constructor
    · rintro (rfl | ⟨u, v, rfl, hp⟩)
      · exact ⟨[], s, rfl, rfl⟩
      · refine ⟨c :: u, v, rfl, ?_⟩
        rw [hp, length_cons, Nat.add_assoc]
    · rintro ⟨u, v, hs, hp⟩
      cases u with
      | nil =>
        obtain ⟨rfl, -⟩ := List.cons.inj hs
        exact .inl (Prod.ext hp rfl)
      | cons d u =>
        obtain ⟨rfl, rfl⟩ := List.cons.inj hs
        refine .inr ⟨u, v, rfl, ?_⟩
        rw [hp, length_cons, Nat.add_assoc]

/-- What is reported are characters of the text. -/
theorem outsideIndices_subset (z : Zone) (offset : Nat) (s : Text) :
    outsideIndices z offset s ⊆ charIndices offset s := by
  induction s generalizing z offset with
  | nil => exact List.Subset.refl _
  | cons c s ih =>
    rw [outsideIndices, charIndices]
    split
    · exact List.cons_subset_cons _ (ih ..)
    · exact List.subset_cons_of_subset _ (ih ..)

/-- **Which characters are reported**: those that stand outside behind what is in front of them. -/
theorem mem_outsideIndices_append (z : Zone) (offset : Nat) (before : Text) (c : Char)
    (after : Text) : (offset + length before, c) ∈ outsideIndices z offset (before ++ c :: after) ↔
      (z.behind before (some c)).leavesOutside c after.head? = true := by
  have hlater : ∀ (z : Zone) (offset : Nat) (d : Char) (s : Text),
      (offset, c) ∉ outsideIndices z (offset + width d) s := by
    intro z offset d s hmem
    obtain ⟨u, -, -, hoffset⟩ := mem_charIndices.1 (outsideIndices_subset _ _ _ hmem)
    have hpos := width_pos d
    omega
  induction before generalizing z offset with
  | nil =>
    rw [List.nil_append, outsideIndices, length_nil, Nat.add_zero, Zone.behind]
    cases hout : z.leavesOutside c after.head? with
    | true => simp
    | false => simp [hlater]
  | cons d before ih =>
    have hne : (offset + (width d + length before), c) ≠ (offset, d) := by
      intro h
      have hpos := width_pos d
      have hoffset : offset + (width d + length before) = offset := congrArg Prod.fst h
      omega
    have hrest := ih (z.after d (before.head?.or (some c))) (offset + width d)
    rw [Nat.add_assoc] at hrest
    rw [List.cons_append, outsideIndices, length_cons, List.head?_append, List.head?_cons,
      Zone.behind]
    refine Iff.trans ?_ hrest
    split
    · rw [List.mem_cons, or_iff_right hne]
    · rfl

/-- A character of a word is reported if and only if the word stands outside. -/
theorem mem_outsideIndices_word {before u v after : Text} {c : Char}
    (hw : ∀ d ∈ u ++ c :: v, isWordChar d = true) :
    (length (before ++ u), c) ∈ outsideIndices .outside 0 (before ++ (u ++ c :: v) ++ after) ↔
      Zone.outside.behind before (u ++ c :: v).head? = .outside := by
  have hform : before ++ (u ++ c :: v) ++ after = before ++ u ++ c :: (v ++ after) := by simp
  have hc : isWordChar c = true := hw c (by simp)
  have hu : ∀ d ∈ u, isWordChar d = true := fun d hd => hw d (List.mem_append_left _ hd)
  have hmem := mem_outsideIndices_append .outside 0 (before ++ u) c (v ++ after)
  rw [Nat.zero_add, Zone.leavesOutside_word hc, beq_iff_eq, Zone.behind_append,
    Zone.behind_word_iff hu] at hmem
  rw [hform, hmem, List.head?_append, List.head?_cons]

/-! ### Runs -/

/-- **A maximal run**: a word between texts that do not prolong it. -/
structure IsRun (before w after : Text) : Prop where
  word : IsWord w
  left : ∀ c ∈ before.getLast?, isWordChar c = false
  right : ∀ c ∈ after.head?, isWordChar c = false

/-- The last character of a text is its first one if no more follow. -/
theorem forall_getLast?_cons {p : Char → Prop} {c : Char} {s : Text} :
    (∀ d ∈ (c :: s).getLast?, p d) ↔ (s = [] → p c) ∧ ∀ d ∈ s.getLast?, p d := by
  cases s with
  | nil => simp
  | cons d s => simp

/-- A maximal run stays one without the first character in front of it. -/
theorem IsRun.tail {c : Char} {before w after : Text} (h : IsRun (c :: before) w after) :
    IsRun before w after :=
  ⟨h.word, (forall_getLast?_cons.1 h.left).2, h.right⟩

/-- A maximal run stays one behind a further character that does not extend it. -/
theorem IsRun.cons {c : Char} {before w after : Text} (h : IsRun before w after)
    (hc : before = [] → isWordChar c = false) : IsRun (c :: before) w after :=
  ⟨h.word, forall_getLast?_cons.2 ⟨hc, h.left⟩, h.right⟩

/-- A word is not empty: it hides what stands behind it. -/
theorem head?_append_word {w : Text} (hw : IsWord w) (before after : Text) :
    (before ++ w ++ after).head? = before.head?.or w.head? := by
  rw [List.append_assoc, List.head?_append, List.head?_append_of_ne_nil _ hw.1]

/-- A word is reported exactly if the zone in front of it is outside. -/
theorem charIndices_subset_iff {before w after : Text} (hw : IsWord w) :
    charIndices (length before) w ⊆ outsideIndices .outside 0 (before ++ w ++ after) ↔
      Zone.outside.behind before w.head? = .outside := by
  constructor
  · intro h
    obtain ⟨c, v, rfl⟩ := List.exists_cons_of_ne_nil hw.1
    have hfirst : (length (before ++ []), c) ∈
        outsideIndices .outside 0 (before ++ ([] ++ c :: v) ++ after) := by
      rw [List.append_nil]
      exact h List.mem_cons_self
    exact (mem_outsideIndices_word hw.2).1 hfirst
  · rintro hout ⟨offset, c⟩ hp
    obtain ⟨u, v, rfl, hoffset⟩ := mem_charIndices.1 hp
    rw [← length_append] at hoffset
    obtain rfl : offset = length (before ++ u) := hoffset
    exact (mem_outsideIndices_word hw.2).2 hout

/-- **A word is reported as a whole or not at all.** -/
theorem charIndices_subset_or_disjoint {before w after : Text} (hw : IsWord w) :
    charIndices (length before) w ⊆ outsideIndices .outside 0 (before ++ w ++ after) ∨
      (charIndices (length before) w).Disjoint
        (outsideIndices .outside 0 (before ++ w ++ after)) := by
  by_cases hout : Zone.outside.behind before w.head? = .outside
  · exact .inl ((charIndices_subset_iff hw).2 hout)
  · right
    rintro ⟨offset, c⟩ hp hmem
    obtain ⟨u, v, rfl, hoffset⟩ := mem_charIndices.1 hp
    rw [← length_append] at hoffset
    obtain rfl : offset = length (before ++ u) := hoffset
    exact hout ((mem_outsideIndices_word hw.2).1 hmem)

end Text

/-! ### Runs and tokens -/

/-- A word among tokens that fit is a maximal run, and stands outside. -/
theorem Token.Fits.isRun {z : Zone} {us vs : List Token} {w : Text}
    (h : Fits z (us ++ .word w :: vs)) :
    Text.IsRun (texts us) w (texts vs) ∧ z.behind (texts us) w.head? = .outside := by
  induction us generalizing z with
  | nil =>
    cases h with
    | word hw hnext h => exact ⟨⟨hw, by simp, h.head_of_word hnext⟩, rfl⟩
  | cons t us ih =>
    rw [List.cons_append] at h
    cases h with
    | @word w' _ hw' hnext h =>
      obtain ⟨hrun, hout⟩ := ih h
      refine ⟨⟨hrun.word, ?_, hrun.right⟩, ?_⟩
      · -- Words are apart from each other, so that another character comes between.
        cases us with
        | nil => exact absurd (hnext _ rfl) (Option.some_ne_none _)
        | cons u us =>
          cases u with
          | word u => exact absurd (hnext _ rfl) (Option.some_ne_none _)
          | char c =>
            have hne : texts (.char c :: us) ≠ [] := List.cons_ne_nil c (texts us)
            rw [texts_cons, List.getLast?_append_of_ne_nil _ hne]
            exact hrun.left
      · rw [texts_cons, text, Zone.behind_append]
        rwa [(Zone.behind_word_iff hw'.2 _ _).2 rfl]
    | @outer c _ hc h =>
      obtain ⟨hrun, hout⟩ := ih h
      refine ⟨hrun.cons fun _ => hc, ?_⟩
      rw [texts_append, texts_cons, ← List.append_assoc, text,
        Text.head?_append_word hrun.word] at hout
      exact hout
    | @inner _ c _ hz h =>
      obtain ⟨hrun, hout⟩ := ih h
      rw [texts_append, texts_cons, ← List.append_assoc, text,
        Text.head?_append_word hrun.word] at hout
      refine ⟨hrun.cons fun hnil => ?_, hout⟩
      -- Only a quote or a bracket leads outside.
      rw [hnil] at hout
      exact Zone.isWordChar_of_after_outside hz hout

namespace Text

/-- A maximal run that stands outside is one of the tokens. -/
theorem IsRun.exists_tokens {z : Zone} {before w after : Text} (hrun : IsRun before w after)
    (hout : z.behind before w.head? = .outside) :
    ∃ us, tokens z (before ++ w ++ after) = us ++ .word w :: tokens .outside after ∧
      Token.texts us = before := by
  induction before generalizing z with
  | nil =>
    obtain rfl : z = .outside := hout
    exact ⟨[], tokens_word_append hrun.word hrun.right, rfl⟩
  | cons c before ih =>
    obtain ⟨us, hus, htexts⟩ := ih hrun.tail hout
    rw [← head?_append_word hrun.word before after] at hus
    rw [List.cons_append, List.cons_append]
    by_cases hz : z = .outside
    · subst hz
      cases hc : isWordChar c with
      | true =>
        rw [Zone.after_word hc] at hus
        rw [tokens_of_isWordChar hc]
        cases us with
        | nil =>
          have hleft := (forall_getLast?_cons.1 hrun.left).1 htexts.symm
          rw [hc] at hleft
          cases hleft
        | cons t us =>
          refine ⟨Token.extend c (t :: us), ?_, by rw [Token.texts_extend, htexts]⟩
          have hus' : tokens .outside (before ++ w ++ after) =
              t :: us ++ .word w :: tokens .outside after := hus
          rw [hus']
          cases t <;> rfl
      | false =>
        rw [tokens_of_not_isWordChar hc, hus]
        exact ⟨.char c :: us, rfl, congrArg (c :: ·) htexts⟩
    · rw [tokens_of_ne_outside hz, hus]
      exact ⟨.char c :: us, rfl, congrArg (c :: ·) htexts⟩

/-- **The words among the tokens** are the maximal runs that are reported. -/
theorem exists_tokens_iff {s before w after : Text} :
    (∃ us vs, tokens .outside s = us ++ .word w :: vs ∧ Token.texts us = before ∧
        Token.texts vs = after) ↔
      s = before ++ w ++ after ∧ IsRun before w after ∧
        charIndices (length before) w ⊆ outsideIndices .outside 0 s := by
  constructor
  · rintro ⟨us, vs, hs, rfl, rfl⟩
    have hfits := Token.fits_tokens .outside s
    have htexts := texts_tokens .outside s
    rw [hs] at hfits
    rw [hs, Token.texts_append, Token.texts_cons, Token.text, ← List.append_assoc] at htexts
    obtain ⟨hrun, hout⟩ := hfits.isRun
    refine ⟨htexts.symm, hrun, ?_⟩
    rw [← htexts]
    exact (charIndices_subset_iff hrun.word).2 hout
  · rintro ⟨rfl, hrun, hreported⟩
    obtain ⟨us, hus, htexts⟩ := hrun.exists_tokens ((charIndices_subset_iff hrun.word).1 hreported)
    exact ⟨us, _, hus, htexts, texts_tokens ..⟩

/-! ### Gaps -/

/-- The first gap stands in front of the first separator. -/
theorem join_cons_of_ne_nil (sep g : Text) {gaps : List Text} (h : gaps ≠ []) :
    join sep (g :: gaps) = g ++ sep ++ join sep gaps := by
  obtain ⟨g', gaps, rfl⟩ := List.exists_cons_of_ne_nil h
  rfl

/-- What is put in front of the first gap is put in front of the whole. -/
theorem join_modifyHead (sep a : Text) {gaps : List Text} (h : gaps ≠ []) :
    join sep (gaps.modifyHead (a ++ ·)) = a ++ join sep gaps := by
  obtain ⟨g, gaps, rfl⟩ := List.exists_cons_of_ne_nil h
  cases gaps with
  | nil => rfl
  | cons g' gaps => simp [join]

/-- What stands in a gap stands between what is joined in front of it and behind it. -/
theorem join_append_cons (sep : Text) (l : List Text) (g : Text) (c : Char) (g' : Text)
    (r : List Text) : join sep (l ++ (g ++ c :: g') :: r) =
      join sep (l ++ [g]) ++ c :: join sep (g' :: r) := by
  induction l with
  | nil => cases r <;> simp [join]
  | cons h l ih =>
    rw [List.cons_append, List.cons_append, join_cons_of_ne_nil sep h (by simp),
      join_cons_of_ne_nil sep h (by simp), ih, List.append_assoc _ _ (c :: _)]

/-- The texts in front of and behind a place where the word `w` stands between two of the gaps. -/
def CutBetween (w : Text) (gaps : List Text) (before after : Text) : Prop :=
  ∃ l r, l ≠ [] ∧ r ≠ [] ∧ gaps = l ++ r ∧ before = join w l ∧ after = join w r

/-- One more gap in front moves the place behind it. -/
theorem CutBetween.cons {w : Text} {gaps : List Text} {before after : Text}
    (h : CutBetween w gaps before after) (g : Text) :
    CutBetween w (g :: gaps) (g ++ w ++ before) after := by
  obtain ⟨l, r, hl, hr, rfl, rfl, rfl⟩ := h
  exact ⟨g :: l, r, List.cons_ne_nil _ _, hr, rfl, (join_cons_of_ne_nil w g hl).symm, rfl⟩

/-- A character of two texts is one of the first or one of the second. -/
theorem append_eq_append_cons {a b before after : Text} {c : Char}
    (h : a ++ b = before ++ c :: after) :
    (∃ v, a = before ++ c :: v ∧ after = v ++ b) ∨ ∃ u, before = a ++ u ∧ b = u ++ c :: after := by
  obtain ⟨u, hbefore, hb⟩ | ⟨v, ha, hafter⟩ := List.append_eq_append_iff.1 h
  · exact .inr ⟨u, hbefore, hb⟩
  · cases v with
    | nil => exact .inr ⟨[], by simpa using ha.symm, hafter.symm⟩
    | cons d v =>
      obtain ⟨rfl, rfl⟩ := List.cons.inj hafter
      exact .inl ⟨v, ha, rfl⟩

/-- **Every character stands in a gap or in a word between two gaps.** -/
theorem exists_gap_or_cut {w : Text} {gaps : List Text} {before after : Text} {c : Char}
    (h : join w gaps = before ++ c :: after) :
    (∃ l g g' r, gaps = l ++ (g ++ c :: g') :: r ∧ before = join w (l ++ [g]) ∧
        after = join w (g' :: r)) ∨
      ∃ b u v a, CutBetween w gaps b a ∧ w = u ++ c :: v ∧ before = b ++ u ∧ after = v ++ a := by
  induction gaps generalizing before with
  | nil => simp [join] at h
  | cons g gaps ih =>
    cases gaps with
    | nil => exact .inl ⟨[], before, after, [], by rw [← h]; rfl, rfl, rfl⟩
    | cons g₂ gaps =>
      have hne : g₂ :: gaps ≠ [] := List.cons_ne_nil _ _
      rw [join_cons_of_ne_nil w g hne] at h
      obtain ⟨v, hfirst, rfl⟩ | ⟨u, rfl, hrest⟩ := append_eq_append_cons h
      · obtain ⟨v', rfl, rfl⟩ | ⟨u, rfl, rfl⟩ := append_eq_append_cons hfirst
        · refine .inl ⟨[], before, v', g₂ :: gaps, rfl, rfl, ?_⟩
          rw [join_cons_of_ne_nil w v' hne]
        · exact .inr ⟨g, u, v, _, ⟨[g], _, by simp, hne, rfl, rfl, rfl⟩, rfl, rfl, rfl⟩
      · obtain ⟨l, g₁, g', r, hgaps, rfl, rfl⟩ | ⟨b, u, v, a, hcut, hw, rfl, rfl⟩ := ih hrest
        · refine .inl ⟨g :: l, g₁, g', r, by rw [hgaps]; rfl, ?_, rfl⟩
          rw [List.cons_append, join_cons_of_ne_nil w g (by simp)]
        · exact .inr ⟨_, u, v, a, hcut.cons g, hw, (List.append_assoc ..).symm, rfl⟩

end Text

namespace Token

/-- The texts between the tokens that are the word `w`. -/
def gaps (w : Text) : List Token → List Text
  | [] => [[]]
  | t :: ts => if t = word w then [] :: gaps w ts else (gaps w ts).modifyHead (t.text ++ ·)

variable {w : Text}

/-- There is always a gap. -/
theorem gaps_ne_nil (w : Text) (ts : List Token) : gaps w ts ≠ [] := by
  cases ts with
  | nil => exact List.cons_ne_nil _ _
  | cons t ts =>
    obtain ⟨g, gs, hgs⟩ := List.exists_cons_of_ne_nil (gaps_ne_nil w ts)
    rw [gaps, hgs]
    split <;> exact List.cons_ne_nil _ _

/-- **The gaps joined by another word** are the text of the exchanged tokens. -/
theorem join_gaps (w new : Text) (ts : List Token) :
    Text.join new (gaps w ts) = texts (ts.map (rename w new)) := by
  induction ts with
  | nil => rfl
  | cons t ts ih =>
    rw [gaps, List.map_cons, texts_cons, ← ih]
    split
    next ht =>
      have hnew : (t.rename w new).text = new := by
        rw [ht, rename, text, renameName, if_pos rfl]
      rw [Text.join_cons_of_ne_nil _ _ (gaps_ne_nil w ts), hnew]
      rfl
    next ht =>
      have hsame : t.rename w new = t := by
        cases t with
        | char c => rfl
        | word v => exact congrArg word (if_neg fun hv => ht (congrArg word hv))
      rw [Text.join_modifyHead _ _ (gaps_ne_nil w ts), hsame]

/-- The gaps joined with the word itself give back the text. -/
theorem join_gaps_self (w : Text) (ts : List Token) : Text.join w (gaps w ts) = texts ts := by
  have hsame : ∀ t ∈ ts, t.rename w w = t := by
    intro t _
    cases t with
    | char c => rfl
    | word v =>
      refine congrArg word ?_
      rw [renameName]
      split
      next hv => exact hv.symm
      next => rfl
  rw [join_gaps, List.map_congr_left hsame, List.map_id']

/-- A word that stands among the tokens ends one gap and begins another. -/
theorem gaps_append (w : Text) (us vs : List Token) :
    gaps w (us ++ .word w :: vs) = gaps w us ++ gaps w vs := by
  induction us with
  | nil => exact if_pos rfl
  | cons t us ih =>
    obtain ⟨g, gs, hgs⟩ := List.exists_cons_of_ne_nil (gaps_ne_nil w us)
    rw [List.cons_append, gaps, gaps, ih, hgs]
    split <;> rfl

/-- Where there are gaps on both sides, the word is one of the tokens. -/
theorem exists_of_gaps_eq_append {ts : List Token} {l r : List Text} (hl : l ≠ []) (hr : r ≠ [])
    (h : gaps w ts = l ++ r) :
    ∃ us vs, ts = us ++ .word w :: vs ∧ gaps w us = l ∧ gaps w vs = r := by
  obtain ⟨g, l, rfl⟩ := List.exists_cons_of_ne_nil hl
  induction ts generalizing g l with
  | nil => exact absurd (List.append_eq_nil_iff.1 (List.cons.inj h).2.symm).2 hr
  | cons t ts ih =>
    rw [gaps, List.cons_append] at h
    split at h
    next ht =>
      obtain ⟨rfl, hrest⟩ := List.cons.inj h
      subst ht
      cases l with
      | nil => exact ⟨[], ts, rfl, rfl, hrest⟩
      | cons g' l =>
        obtain ⟨us, vs, rfl, hus, hvs⟩ := ih g' l (List.cons_ne_nil _ _) hrest
        exact ⟨.word w :: us, vs, rfl, by rw [gaps, if_pos rfl, hus], hvs⟩
    next ht =>
      obtain ⟨g', gs, hgs⟩ := List.exists_cons_of_ne_nil (gaps_ne_nil w ts)
      rw [hgs, List.modifyHead_cons] at h
      obtain ⟨rfl, rfl⟩ := List.cons.inj h
      obtain ⟨us, vs, rfl, hus, hvs⟩ := ih g' l (List.cons_ne_nil _ _) hgs
      exact ⟨t :: us, vs, rfl, by rw [gaps, if_neg ht, hus]; rfl, hvs⟩

/-- **The gaps meet at the tokens** that are the word. -/
theorem cutBetween_gaps_iff {ts : List Token} {before after : Text} :
    Text.CutBetween w (gaps w ts) before after ↔
      ∃ us vs, ts = us ++ .word w :: vs ∧ texts us = before ∧ texts vs = after := by
  constructor
  · rintro ⟨l, r, hl, hr, hgaps, rfl, rfl⟩
    obtain ⟨us, vs, rfl, rfl, rfl⟩ := exists_of_gaps_eq_append hl hr hgaps
    exact ⟨us, vs, rfl, (join_gaps_self w us).symm, (join_gaps_self w vs).symm⟩
  · rintro ⟨us, vs, rfl, rfl, rfl⟩
    exact ⟨_, _, gaps_ne_nil w us, gaps_ne_nil w vs, gaps_append w us vs,
      (join_gaps_self w us).symm, (join_gaps_self w vs).symm⟩

end Token

/-! ### The law -/

namespace Text

/-- **What a scan and a renaming have to do with each other**: a text, the characters that a scan
of it reports with their offsets, and the gaps that the word `old` leaves in it. -/
structure ScanningLaw (old s : Text) (found : List (Nat × Char)) (gaps : List Text) : Prop where
  /-- Neither a scan nor a renaming is stopped, -/
  scanned : topLevel? s = some found
  renamed : ∀ new, renameTopLevel? old new s = some (renameWord old new s)
  /-- and both are in the same state behind every beginning of the text. -/
  inStep : ∀ new {before after : Text}, s = before ++ after →
    (Renamer.start.pass? old new before after.head?).map Renamer.scanner =
      Scanner.start.pass? before after.head?
  /-- The word stands between the gaps, and afterwards the new one does. -/
  text_eq : s = join old gaps
  rename_eq : ∀ new, renameWord old new s = join new gaps
  /-- The gaps meet exactly where the word is a maximal run that is reported. -/
  cut_iff : ∀ {before after : Text}, CutBetween old gaps before after ↔
    s = before ++ old ++ after ∧ IsRun before old after ∧ charIndices (length before) old ⊆ found
  /-- No maximal run is reported in part. -/
  whole : ∀ {before w after : Text}, s = before ++ w ++ after → IsRun before w after →
    charIndices (length before) w ⊆ found ∨ (charIndices (length before) w).Disjoint found
  /-- A character that is not reported, such as one of a literal or a reference, stands in a gap
  and is copied. -/
  copied : ∀ {before after : Text} {c : Char}, s = before ++ c :: after →
    (length before, c) ∉ found → ∃ l g g' r, gaps = l ++ (g ++ c :: g') :: r ∧
      before = join old (l ++ [g]) ∧ after = join old (g' :: r) ∧
      ∀ new, renameWord old new s = join new (l ++ [g]) ++ c :: join new (g' :: r)
  /-- Renaming a word to itself changes nothing, -/
  self : renameWord old old s = s
  /-- nor does renaming a word that is no maximal run that is reported. -/
  absent : (∀ before after, s = before ++ old ++ after → IsRun before old after →
    ¬charIndices (length before) old ⊆ found) → ∀ new, renameWord old new s = s

/-- **A renaming exchanges exactly what a scan reports**, in every text. -/
theorem exists_scanningLaw {old : Text} (hold : old ≠ []) (s : Text) :
    ∃ found gaps, ScanningLaw old s found gaps := by
  have htext : s = join old (Token.gaps old (tokens .outside s)) := by
    rw [Token.join_gaps_self, texts_tokens]
  have hrename (new : Text) :
      renameWord old new s = join new (Token.gaps old (tokens .outside s)) := by
    rw [renameWord_eq hold, Token.join_gaps]
  have hcut {before after : Text} :
      CutBetween old (Token.gaps old (tokens .outside s)) before after ↔
        s = before ++ old ++ after ∧ IsRun before old after ∧
          charIndices (length before) old ⊆ outsideIndices .outside 0 s :=
    Token.cutBetween_gaps_iff.trans exists_tokens_iff
  generalize Token.gaps old (tokens .outside s) = gaps at htext hrename hcut
  refine ⟨outsideIndices .outside 0 s, gaps, topLevel?_eq s,
    fun new => renameTopLevel?_eq old new s, ?_, htext, hrename, hcut, ?_, ?_, ?_, ?_⟩
  · intro new before after _
    exact Renamer.start.pass?_scanner before after.head?
  · rintro before w after rfl hrun
    exact charIndices_subset_or_disjoint hrun.word
  · intro before after c hs hc
    obtain ⟨l, g, g', r, hgaps, hbefore, hafter⟩ | ⟨b, u, v, a, hword, hw, rfl, rfl⟩ :=
      exists_gap_or_cut (htext.symm.trans hs)
    · refine ⟨l, g, g', r, hgaps, hbefore, hafter, fun new => ?_⟩
      rw [hrename, hgaps, join_append_cons]
    · -- The character would be one of a run that is reported.
      obtain ⟨-, -, hreported⟩ := hcut.1 hword
      refine absurd (hreported (mem_charIndices.2 ⟨u, v, hw, ?_⟩)) hc
      rw [length_append]
  · rw [hrename, ← htext]
  · intro habsent new
    rw [hrename]
    match gaps with
    | [] => exact htext.symm
    | [g] => exact htext.symm
    | g :: g' :: gaps =>
      obtain ⟨hs, hrun, hreported⟩ :=
        hcut.1 ⟨[g], g' :: gaps, List.cons_ne_nil _ _, List.cons_ne_nil _ _, rfl, rfl, rfl⟩
      exact absurd hreported (habsent _ _ hs hrun)

end Text

namespace SampleZones

/-- Verbatim code with a shift, a comparison, a literal with escaped quotes, a reference with
brackets inside, and a literal that is not closed. -/
def code : Text :=
  "é + r1 << r1 - \"r1 \\\" r1\" + r1.<a.B: a.C<r1> r1> <5r1 + r10 + \"r1".toList

/-- The law for a text in which the word stands in every zone. -/
theorem exists_scanningLaw_code :
    "r1".toList ≠ [] ∧ ∃ found gaps, Text.ScanningLaw "r1".toList code found gaps ∧
      Text.join "x".toList gaps =
        "é + x << x - \"r1 \\\" r1\" + x.<a.B: a.C<r1> r1> <5r1 + r10 + \"r1".toList := by
  have hold : "r1".toList ≠ [] := by decide
  obtain ⟨found, gaps, h⟩ := Text.exists_scanningLaw hold code
  refine ⟨hold, found, gaps, h, ?_⟩
  rw [← h.rename_eq]
  decide +kernel

end SampleZones

end Weaver
