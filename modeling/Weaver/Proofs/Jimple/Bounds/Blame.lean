import Weaver.Proofs.Jimple.Bounds.Outline
import Weaver.Proofs.Text.Replacing

/-!
# The Line That Is Blamed

A reader that fails blames a line, and a switch, a body or a class that is never closed is blamed on
the line that opened it or on the last line there is. Each of these lines stands in the text and
counts. There is one exception: a class without lines that count is blamed on line zero.

## Main definitions

* `Text.HasLine`: a line that counts, with its number.
* `Fault.Blames`: a fault that is put on one of some lines.

## Main results

* `mem_significantLines_iff`, `pairwise_significantLines`: the lines that are read, in order.
* `ByteReader.blames_of_bodyLines?`, `ByteReader.blames_of_members?`: what is taken from the cursor.
* `Body.blames_of_read`, `Class.blames_of_read`: **every fault is put on a line of the text**.
-/

namespace Weaver

/-! ### Lines of a text -/

/-- The line stands in the text under its number, counted from one, and is neither blank nor a
comment; white space around it does not matter. -/
def Text.HasLine (s : Text) (line : Line) : Prop :=
  ∃ i raw, line.number = i + 1 ∧ (Text.lines s)[i]? = some raw ∧ line.text = Text.trim raw ∧
    line.text ≠ [] ∧ ¬"//".toList <+: line.text

/-- A line is significant if it is neither empty nor a comment. -/
theorem isSignificant_iff {line : Text} :
    isSignificant line = true ↔ line ≠ [] ∧ ¬"//".toList <+: line := by
  have hfront : Text.startsWith line "//".toList = true ↔ "//".toList <+: line :=
    Text.startsWith_iff.trans (exists_congr fun _ => eq_comm)
  rw [isSignificant, Bool.and_eq_true, Bool.not_eq_true', Bool.not_eq_true',
    List.isEmpty_eq_false_iff, ← hfront, Bool.not_eq_true]

/-- The lines that are kept are the significant ones, trimmed and under their numbers. -/
theorem mem_significantFrom_iff {number : Nat} {raws : List Text} {line : Line} :
    line ∈ significantFrom number raws ↔
      ∃ i raw, line.number = number + i ∧ raws[i]? = some raw ∧ line.text = Text.trim raw ∧
        isSignificant line.text = true := by
  induction raws generalizing number with
  | nil => simp [significantFrom]
  | cons raw raws ih =>
    have hcons : (line = ⟨number, Text.trim raw⟩ ∧ isSignificant (Text.trim raw) = true) ∨
          line ∈ significantFrom (number + 1) raws ↔
        ∃ i raw', line.number = number + i ∧ (raw :: raws)[i]? = some raw' ∧
          line.text = Text.trim raw' ∧ isSignificant line.text = true := by
      rw [← Nat.or_exists_add_one, ih]
      refine or_congr ?_ (exists_congr fun i => ?_)
      · constructor
        · rintro ⟨rfl, hcount⟩
          exact ⟨raw, rfl, rfl, rfl, hcount⟩
        · rintro ⟨_, hnumber, hraw, htext, hcount⟩
          obtain rfl := Option.some.inj hraw
          exact ⟨by cases line; simp_all, htext ▸ hcount⟩
      · rw [Nat.add_assoc, Nat.add_comm 1 i]
        rfl
    rw [← hcons, significantFrom]
    split
    next hcount => simp [hcount]
    next hcount => simp [hcount]

/-- **The lines that are read** are the lines of the text that count. -/
theorem mem_significantLines_iff {s : Text} {line : Line} :
    line ∈ significantLines s ↔ s.HasLine line := by
  rw [significantLines, mem_significantFrom_iff]
  simp only [isSignificant_iff, Nat.add_comm 1]
  rfl

/-- No line has a number before the first one. -/
theorem le_number_of_mem {number : Nat} {raws : List Text} {line : Line}
    (h : line ∈ significantFrom number raws) : number ≤ line.number := by
  obtain ⟨i, _, hnumber, -⟩ := mem_significantFrom_iff.1 h
  omega

/-- **They are read in order**, each once. -/
theorem pairwise_significantLines (s : Text) :
    (significantLines s).Pairwise fun line line' => line.number < line'.number := by
  have hfrom (number : Nat) (raws : List Text) :
      (significantFrom number raws).Pairwise fun line line' => line.number < line'.number := by
    induction raws generalizing number with
    | nil => exact List.Pairwise.nil
    | cons raw raws ih =>
      rw [significantFrom]
      split
      · refine List.Pairwise.cons (fun line hline => ?_) (ih _)
        exact Nat.lt_of_succ_le (le_number_of_mem hline)
      · exact ih _
  exact hfrom 1 (Text.lines s)

/-! ### Blame -/

/-- The fault is put on one of the lines. -/
def Fault.Blames (lines : List Line) (fault : Fault) : Prop :=
  ∃ line ∈ lines, ∃ why, fault = .read line.number why

/-- A fault at the end of the text is put on its last line. -/
theorem Fault.blames_last {lines : List Line} (h : lines ≠ []) (why : ReadFault) :
    (Fault.read (lastNumber lines) why).Blames lines := by
  refine ⟨lines.getLast h, List.getLast_mem h, why, ?_⟩
  rw [lastNumber, List.getLast?_eq_some_getLast h]

/-- A fault under the number of a line is put on this line. -/
theorem Fault.blames_line {lines : List Line} {line : Line} (h : line ∈ lines) (why : ReadFault) :
    (Fault.read line.number why).Blames lines :=
  ⟨line, h, why, rfl⟩

namespace ByteReader

variable {all lines : List Line} {fault : Fault}

/-- A switch that is never closed is blamed on the line that opened it. -/
theorem fault_of_switch {opened : Nat} {taken : List Text}
    (h : switch opened taken lines = .error fault) : fault = .read opened .openSwitch := by
  induction lines generalizing taken with
  | nil => exact (Except.error.inj h).symm
  | cons line rest ih =>
    rw [switch] at h
    split at h
    · cases h
    · exact ih h

/-- **Faults of a body.** -/
theorem blames_of_bodyLines? {braced declaring : Bool} {b : Body} (hall : braced = true → all ≠ [])
    (hsub : lines ⊆ all)
    (h : bodyLines? braced (lastNumber all) declaring b lines = some (.error fault)) :
    fault.Blames all := by
  fun_induction bodyLines? braced (lastNumber all) declaring b lines with
  | case1 declaring b =>
    split at h
    next hbraced => exact Except.error.inj (Option.some.inj h) ▸ Fault.blames_last (hall hbraced) _
    · cases h
  | case2 declaring b line rest hclose =>
    split at h
    · cases h
    · exact Except.error.inj (Option.some.inj h) ▸ Fault.blames_line (hsub List.mem_cons_self) _
  | case3 declaring b line rest _ _ _ why | case6 declaring b line rest _ _ why =>
    exact Except.error.inj (Option.some.inj h) ▸ Fault.blames_line (hsub List.mem_cons_self) _
  | case4 declaring b line rest _ _ _ _ _ ih | case7 declaring b line rest _ _ _ _ ih =>
    exact ih (List.subset_of_cons_subset hsub) h
  | case5 => cases h
  | case8 declaring b line rest hopen hls hs fault' hfault =>
    obtain rfl := Except.error.inj (Option.some.inj h)
    exact fault_of_switch hfault ▸ Fault.blames_line (hsub List.mem_cons_self) _
  | case9 declaring b line rest hopen hls hs code behind hcode ih =>
    obtain ⟨inner, closing, rfl, -⟩ := lines_of_switch hcode
    refine ih (fun l hl => hsub ?_) h
    exact List.mem_cons_of_mem _ (List.mem_append_right _ (List.mem_cons_of_mem _ hl))

/-- A missing opening brace is put on a line that is left or on the last one. -/
theorem blames_of_openBrace (hall : all ≠ []) (hsub : lines ⊆ all)
    (h : openBrace (lastNumber all) lines = .error fault) : fault.Blames all := by
  cases lines with
  | nil => exact Except.error.inj h ▸ Fault.blames_last hall _
  | cons line rest =>
    rw [openBrace] at h
    split at h
    · cases h
    · exact Except.error.inj h ▸ Fault.blames_line (hsub List.mem_cons_self) _

/-- **Faults of the members.** -/
theorem blames_of_members? {c : Class} (hall : all ≠ []) (hsub : lines ⊆ all)
    (h : members? (lastNumber all) c lines = some (.error fault)) : fault.Blames all := by
  fun_induction members? (lastNumber all) c lines with
  | case1 c => exact Except.error.inj (Option.some.inj h) ▸ Fault.blames_last hall _
  | case2 | case3 | case7 | case10 => cases h
  | case4 c line rest _ _ why | case11 c line rest _ _ why =>
    exact Except.error.inj (Option.some.inj h) ▸ Fault.blames_line (hsub List.mem_cons_self) _
  | case5 c line rest hmember hmethod m hm ih | case12 c line rest hmember hfield f hf ih =>
    exact ih (List.subset_of_cons_subset hsub) h
  | case6 c line rest hmember hmethod m hm fault' hfault =>
    obtain rfl := Except.error.inj (Option.some.inj h)
    exact blames_of_openBrace hall (List.subset_of_cons_subset hsub) hfault
  | case8 c line rest hmember hmethod m hm inner hinner fault' hfault =>
    obtain rfl := Except.error.inj (Option.some.inj h)
    obtain ⟨opening, rfl, -⟩ := openBrace_eq_ok hinner
    refine blames_of_bodyLines? (fun _ => hall) (fun l hl => hsub ?_) hfault
    exact List.mem_cons_of_mem _ (List.mem_cons_of_mem _ hl)
  | case9 c line rest hmember hmethod m hm inner hinner b behind hbody ih =>
    obtain ⟨opening, rfl, -⟩ := openBrace_eq_ok hinner
    obtain ⟨code, closing, -, rfl, -⟩ := outline_of_braced hbody
    refine ih (fun l hl => hsub ?_) h
    have hbehind := List.mem_append_right code.lines (List.mem_cons_of_mem closing hl)
    exact List.mem_cons_of_mem _ (List.mem_cons_of_mem _ hbehind)

/-- What was not read to the end of the text. -/
theorem toEnd?_eq_error {α : Type} {why : ReadFault}
    {taken : Option (Except Fault (α × List Line))} (h : toEnd? why taken = some (.error fault)) :
    taken = some (.error fault) ∨
      ∃ a extra rest, taken = some (.ok (a, extra :: rest)) ∧ fault = .read extra.number why := by
  obtain ⟨out, rfl, hout⟩ := Option.map_eq_some_iff.1 h
  match out with
  | .error fault' => exact .inl (congrArg some (congrArg Except.error (Except.error.inj hout)))
  | .ok (a, []) => cases hout
  | .ok (a, extra :: rest) => exact .inr ⟨a, extra, rest, rfl, (Except.error.inj hout).symm⟩

end ByteReader

/-! ### Whole texts -/

open ByteReader

/-- **Every fault of a body** of an accepted method is put on a line of its text. -/
theorem Body.blames_of_read {method s : Text} {m : MethodRef} {fault : Fault}
    (hm : MethodRef.read method = .ok m) (h : Body.read method s = .error fault) :
    fault.Blames (significantLines s) := by
  have hread : body? method s = some (.error fault) := (body?_eq method s).trans (congrArg some h)
  obtain hend | ⟨opening, rest, hlines, -, hend⟩ := body?_cases hm hread
  · obtain hfault | ⟨b, extra, rest, htaken, -⟩ := toEnd?_eq_error hend
    · have hsub := List.Subset.refl (significantLines s)
      exact blames_of_bodyLines? (fun hb => absurd hb Bool.false_ne_true) hsub hfault
    · -- Without braces a body goes to the end of the text.
      obtain ⟨-, ending, -, -, -, hopen⟩ := outline_of_bodyLines? htaken
      cases (hopen rfl).2
  · have hall : significantLines s ≠ [] := hlines ▸ List.cons_ne_nil opening rest
    have hsub : rest ⊆ significantLines s := hlines ▸ List.subset_cons_self opening rest
    obtain hfault | ⟨b, extra, behind, htaken, rfl⟩ := toEnd?_eq_error hend
    · exact blames_of_bodyLines? (fun _ => hall) hsub hfault
    · obtain ⟨code, closing, -, rfl, -⟩ := outline_of_braced htaken
      exact Fault.blames_line (hsub (by simp)) _

/-- **Every fault of a class** is put on a line of its text, if there is one that counts. -/
theorem Class.blames_of_read {s : Text} {fault : Fault} (hall : significantLines s ≠ [])
    (h : Class.read s = .error fault) : fault.Blames (significantLines s) := by
  have hread : class? s = some (.error fault) := (class?_eq s).trans (congrArg some h)
  obtain ⟨header, rest, hlines⟩ := List.exists_cons_of_ne_nil hall
  have hsub : rest ⊆ significantLines s := hlines ▸ List.subset_cons_self header rest
  obtain ⟨why, hwhy⟩ | ⟨fault', hopen, hfault⟩ | ⟨c, opening, inner, -, rfl, -, hend⟩ :=
    class?_cases hlines hread
  · obtain rfl := Except.error.inj hwhy
    exact Fault.blames_line (hlines ▸ List.mem_cons_self) _
  · obtain rfl := Except.error.inj hfault
    exact blames_of_openBrace hall hsub hopen
  · have hinner : inner ⊆ significantLines s := List.subset_of_cons_subset hsub
    obtain hfault | ⟨c', extra, behind, htaken, rfl⟩ := toEnd?_eq_error hend
    · exact blames_of_members? hall hinner hfault
    · obtain ⟨members, closing, -, rfl, -⟩ := outline_of_members? htaken
      exact Fault.blames_line (hinner (by simp)) _

end Weaver
