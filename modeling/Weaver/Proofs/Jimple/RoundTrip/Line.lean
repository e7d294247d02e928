import Mathlib.Data.List.Basic
import Weaver.Jimple.Reader.Line
import Weaver.Proofs.Text.Cutting

/-!
# Lines of Code

A text that is put together from whole lines shows the lines that count: indentation and
blank lines do not matter, and what two such texts show stands one after the other.

## Main results

* `Text.Shows.append`: **texts that show lines compose**.
* `Text.Shows.significantLines`: the reader sees the lines that are shown.
-/

namespace Weaver

namespace Text

/-! ### Carriage returns -/

/-- White space at the end of a text is no part of what remains. -/
theorem trim_append_singleton {c : Char} (hc : isBlank c = true) (s : Text) :
    trim (s ++ [c]) = trim s := by
  rw [trim, trim, trimStart, trimStart, List.dropWhile_append]
  split
  next hnil =>
    rw [List.isEmpty_iff] at hnil
    rw [hnil, List.dropWhile_cons_of_pos hc]
    rfl
  · rw [trimEnd, trimEnd, List.reverse_append, List.reverse_singleton, List.singleton_append,
      List.dropWhile_cons_of_pos hc]

/-- A carriage return at the end is trimmed with the other blanks. -/
theorem trim_dropCarriageReturn (l : Text) : trim (dropCarriageReturn l) = trim l := by
  rw [dropCarriageReturn]
  cases h : stripSuffix? ['\r'] l with
  | none => rfl
  | some s =>
    obtain rfl := stripSuffix?_eq_some_iff.1 h
    exact (trim_append_singleton rfl s).symm

/-- A trimmed line ends in no carriage return. -/
theorem dropCarriageReturn_of_trim {l : Text} (h : trim l = l) : dropCarriageReturn l = l := by
  rw [dropCarriageReturn]
  cases hstrip : stripSuffix? ['\r'] l with
  | none => rfl
  | some s =>
    obtain rfl := stripSuffix?_eq_some_iff.1 hstrip
    rw [trim_append_singleton rfl] at h
    have hlength := length_trim_le s
    rw [h, List.length_append, List.length_singleton] at hlength
    omega

/-- **The lines of a text that was joined from trimmed lines.** -/
theorem lines_join {ls : List Text} (h : ∀ l ∈ ls, '\n' ∉ l ∧ trim l = l) {last : Text}
    (hlast : '\n' ∉ last) (hne : last ≠ []) :
    lines (join "\n".toList (ls ++ [last])) = ls ++ [last] := by
  have hpieces : ∀ ls : List Text, (∀ l ∈ ls, trim l = l) →
      linesOfPieces (ls ++ [last]) = ls ++ [last] := by
    intro ls htrim
    induction ls with
    | nil => rw [List.nil_append, linesOfPieces, if_neg hne]
    | cons l ls ih =>
      rw [List.forall_mem_cons] at htrim
      have hrest : ∃ m ms, ls ++ [last] = m :: ms :=
        List.exists_cons_of_ne_nil (List.append_ne_nil_of_right_ne_nil _ (List.cons_ne_nil _ _))
      obtain ⟨m, ms, hms⟩ := hrest
      rw [List.cons_append, hms, linesOfPieces, ← hms, ih htrim.2,
        dropCarriageReturn_of_trim htrim.1]
      exact List.cons_ne_nil _ _
  have hfeeds : ∀ l ∈ ls ++ [last], '\n' ∉ l := by
    intro l hl
    obtain hl | hl := List.mem_append.1 hl
    · exact (h l hl).1
    · rw [List.mem_singleton.1 hl]
      exact hlast
  have hsplit : splitOn '\n' (join "\n".toList (ls ++ [last])) = ls ++ [last] := by
    obtain ⟨m, ms, hms⟩ := List.exists_cons_of_ne_nil
      (List.append_ne_nil_of_right_ne_nil ls (List.cons_ne_nil last []))
    rw [hms] at hfeeds ⊢
    have hjoin : splitOn '\n' (join "\n".toList (m :: ms)) = m :: ms.map ([] ++ ·) :=
      splitOn_join List.not_mem_nil hfeeds
    rw [hjoin]
    simp
  rw [lines, hsplit, hpieces ls fun l hl => (h l hl).2]

/-! ### Texts that show lines -/

/-- The text consists of whole lines, and those that count are `ls` without the white space
around them. -/
def Shows (t : Text) (ls : List Text) : Prop :=
  ∃ raw : List Text, t = raw.flatMap (· ++ ['\n']) ∧ (∀ l ∈ raw, '\n' ∉ l) ∧
    (raw.map trim).filter isSignificant = ls

theorem shows_nil : Shows [] [] :=
  ⟨[], rfl, by simp, rfl⟩

/-- A blank line does not count. -/
theorem shows_blank : Shows ['\n'] [] :=
  ⟨[[]], rfl, by simp, rfl⟩

/-- **Texts that show lines compose.** -/
theorem Shows.append {t t' : Text} {ls ls' : List Text} (h : Shows t ls) (h' : Shows t' ls') :
    Shows (t ++ t') (ls ++ ls') := by
  obtain ⟨raw, rfl, hline, rfl⟩ := h
  obtain ⟨raw', rfl, hline', rfl⟩ := h'
  refine ⟨raw ++ raw', ?_, ?_, ?_⟩
  · rw [List.flatMap_append]
  · intro l hl
    obtain hl | hl := List.mem_append.1 hl
    · exact hline l hl
    · exact hline' l hl
  · rw [List.map_append, List.filter_append]

/-- What is neither blank at its ends nor a comment is significant. -/
theorem isSignificant_of_isTight {s : Text} (h : IsTight s)
    (hcomment : startsWith s "//".toList = false) : isSignificant s = true := by
  obtain ⟨c, rest, hs, -⟩ := h.head
  rw [isSignificant, hcomment, hs]
  rfl

/-- **A line** with some indentation in front. -/
theorem shows_line {pad s : Text} (hpad : ∀ c ∈ pad, c = ' ') (htrim : trim s = s)
    (hcount : isSignificant s = true) (hline : '\n' ∉ s) : Shows (pad ++ s ++ ['\n']) [s] := by
  have hblank : ∀ c ∈ pad, isBlank c = true := by
    intro c hc
    rw [hpad c hc]
    rfl
  refine ⟨[pad ++ s], by simp, ?_, ?_⟩
  · intro l hl hmem
    rw [List.mem_singleton.1 hl] at hmem
    obtain hmem | hmem := List.mem_append.1 hmem
    · exact absurd (hpad _ hmem) (by decide)
    · exact hline hmem
  · rw [List.map_singleton, trim_append hblank, htrim, List.filter_cons_of_pos hcount,
      List.filter_nil]

end Text

/-! ### What the reader sees -/

/-- The lines that are kept are the trimmed ones that are significant. -/
theorem significantFrom_text (number : Nat) (raw : List Text) :
    (significantFrom number raw).map Line.text = (raw.map Text.trim).filter isSignificant := by
  induction raw generalizing number with
  | nil => rfl
  | cons l raw ih =>
    rw [significantFrom, List.map_cons]
    split
    next hl => rw [List.map_cons, ih, List.filter_cons_of_pos hl]
    next hl => rw [ih, List.filter_cons_of_neg hl]

/-- **The reader sees the lines that are shown.** -/
theorem Text.Shows.significantLines {t : Text} {ls : List Text} (h : Shows t ls) :
    (significantLines t).map Line.text = ls := by
  obtain ⟨raw, rfl, hline, rfl⟩ := h
  have htrim : trim ∘ dropCarriageReturn = trim := funext trim_dropCarriageReturn
  rw [Weaver.significantLines, significantFrom_text, lines_flatMap hline, List.map_map, htrim]

end Weaver
