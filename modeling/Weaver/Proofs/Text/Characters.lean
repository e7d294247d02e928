import Mathlib.Data.List.Basic
import Weaver.Jimple.Reader.Word
import Weaver.Jimple.Type
import Weaver.Jimple.Zone

/-!
# Classes of Characters

The classes of characters that names are made of have no white space and no punctuation
in common.

## Main results

* `isAlphanumeric_eq_false_of_isBlank`: **letters and digits are never white space**.
* `isLocalName_spec`, `isLabelName_spec`: the characters of the names of locals and labels.
-/

namespace Weaver

/-! ### The ASCII block -/

/-- The code points of the digits. -/
theorem isDigit_iff {c : Char} : c.isDigit = true ↔ 48 ≤ c.toNat ∧ c.toNat ≤ 57 := by
  simp only [Char.isDigit, Bool.and_eq_true, decide_eq_true_eq, ge_iff_le, UInt32.le_iff_toNat_le]
  exact Iff.rfl

/-- The code points of the capital letters and of the small ones. -/
theorem isAlpha_iff {c : Char} :
    c.isAlpha = true ↔ 65 ≤ c.toNat ∧ c.toNat ≤ 90 ∨ 97 ≤ c.toNat ∧ c.toNat ≤ 122 := by
  have hform : c.isAlpha =
      (decide (c.val ≥ 65 ∧ c.val ≤ 90) || (decide (c.val ≥ 97) && decide (c.val ≤ 122))) := rfl
  simp only [hform, Bool.or_eq_true, Bool.and_eq_true, decide_eq_true_eq, ge_iff_le,
    UInt32.le_iff_toNat_le]
  exact Iff.rfl

/-- Letters and digits are what is either of them. -/
theorem isAlphanum_iff {c : Char} : c.isAlphanum = true ↔ c.isAlpha = true ∨ c.isDigit = true := by
  rw [Char.isAlphanum, Bool.or_eq_true]

/-! ### White space -/

/-- The white space behind the ASCII block. -/
def wideBlanks : List Nat :=
  [0x85, 0xA0, 0x1680, 0x2000, 0x2001, 0x2002, 0x2003, 0x2004, 0x2005, 0x2006, 0x2007, 0x2008,
   0x2009, 0x200A, 0x2028, 0x2029, 0x202F, 0x205F, 0x3000]

/-- None of the wide blanks is in the table of letters and digits. -/
theorem wideBlanks_outside_alphanumericRanges :
    alphanumericRanges.all (fun r => wideBlanks.all fun n => !(r.1 ≤ n && n ≤ r.2)) = true := by
  decide +kernel

/-- White space beyond the ASCII block is one of the wide blanks. -/
theorem mem_wideBlanks {c : Char} (h : isBlank c = true) (hc : ¬c.toNat < 0x80) :
    c.toNat ∈ wideBlanks := by
  simp only [isBlank, Bool.or_eq_true, Bool.and_eq_true, decide_eq_true_eq, beq_iff_eq] at h
  simp only [wideBlanks, List.mem_cons, List.not_mem_nil, or_false]
  omega

/-- **Letters and digits are never white space.** -/
theorem isAlphanumeric_eq_false_of_isBlank {c : Char} (h : isBlank c = true) :
    isAlphanumeric c = false := by
  by_cases hc : c.toNat < 0x80
  · rw [isAlphanumeric, if_pos hc, Bool.eq_false_iff]
    intro ha
    simp only [isBlank, Bool.or_eq_true, Bool.and_eq_true, decide_eq_true_eq, beq_iff_eq] at h
    rw [isAlphanum_iff, isAlpha_iff, isDigit_iff] at ha
    omega
  · rw [isAlphanumeric, if_neg hc, inRanges, List.any_eq_false]
    intro r hr
    have hall := List.all_eq_true.1 wideBlanks_outside_alphanumericRanges r hr
    have hout := List.all_eq_true.1 hall c.toNat (mem_wideBlanks h hc)
    simp only [Bool.not_eq_true', Bool.and_eq_false_iff, decide_eq_false_iff_not] at hout
    simp only [Bool.and_eq_true, decide_eq_true_eq]
    tauto

/-- No white space may stand in a class name. -/
theorem isBlank_eq_false_of_isNameChar {c : Char} (h : Ty.isNameChar c = true) :
    isBlank c = false := by
  simp only [Ty.isNameChar, Bool.or_eq_true, beq_iff_eq] at h
  obtain ((h | rfl) | rfl) | rfl := h
  · rw [Bool.eq_false_iff]
    intro hb
    rw [isAlphanumeric_eq_false_of_isBlank hb] at h
    cases h
  all_goals rfl

/-! ### Names -/

/-- Whatever may stand in a word may stand in a class name. -/
theorem isNameChar_of_isWordChar {c : Char} (h : isWordChar c = true) : Ty.isNameChar c = true := by
  simp only [isWordChar, Bool.or_eq_true] at h
  simp only [Ty.isNameChar, Bool.or_eq_true]
  tauto

/-- Punctuation is no part of names. -/
theorem ne_of_isNameChar {c d : Char} (h : Ty.isNameChar c = true) (hd : Ty.isNameChar d = false) :
    c ≠ d := by
  rintro rfl
  rw [h] at hd
  cases hd

/-- The letters and digits of the ASCII block may stand in words. -/
theorem isWordChar_of_isAlphanum {c : Char} (h : c.isAlphanum = true) : isWordChar c = true := by
  rw [isWordChar, isAlphanumeric_of_isAlphanum h]
  rfl

/-- A letter is no white space. -/
theorem isBlank_eq_false_of_isAlpha {c : Char} (h : c.isAlpha = true) : isBlank c = false :=
  isBlank_eq_false_of_isNameChar
    (isNameChar_of_isWordChar (isWordChar_of_isAlphanum (isAlphanum_iff.2 (.inl h))))

/-- A name begins with a character of words that is no digit. -/
theorem isNameStart_spec {c : Char} (h : isNameStart c = true) :
    isWordChar c = true ∧ c.isDigit = false := by
  simp only [isNameStart, Bool.or_eq_true, beq_iff_eq] at h
  obtain h | rfl := h
  · refine ⟨isWordChar_of_isAlphanum (isAlphanum_iff.2 (.inl h)), ?_⟩
    rw [Bool.eq_false_iff, Ne, isDigit_iff]
    rw [isAlpha_iff] at h
    omega
  · exact ⟨rfl, rfl⟩

/-- The names of locals are words that do not begin with a digit. -/
theorem isLocalName_spec {name : Text} (h : isLocalName name = true) :
    (∀ c ∈ name, isWordChar c = true) ∧
      ∃ c rest, name = c :: rest ∧ isWordChar c = true ∧ c.isDigit = false := by
  have hrest : ∀ {rest : Text}, (rest.all fun c => c.isAlphanum || c == '_' || c == '$') = true →
      ∀ c ∈ rest, isWordChar c = true := by
    intro rest hall c hc
    have := List.all_eq_true.1 hall c hc
    simp only [Bool.or_eq_true, beq_iff_eq] at this
    obtain (hc | rfl) | rfl := this
    · exact isWordChar_of_isAlphanum hc
    all_goals rfl
  unfold isLocalName at h
  split at h
  · rw [Bool.and_eq_true] at h
    obtain ⟨hstart, -⟩ := isNameStart_spec h.1
    refine ⟨?_, '$', _, rfl, rfl, rfl⟩
    simp only [List.forall_mem_cons]
    exact ⟨rfl, hstart, hrest h.2⟩
  · rw [Bool.and_eq_true] at h
    obtain ⟨hstart, hdigit⟩ := isNameStart_spec h.1
    refine ⟨?_, _, _, rfl, hstart, hdigit⟩
    simp only [List.forall_mem_cons]
    exact ⟨hstart, hrest h.2⟩
  · cases h

/-- The names of labels are words. -/
theorem isLabelName_spec {name : Text} (h : isLabelName name = true) :
    (∀ c ∈ name, isWordChar c = true) ∧ name ≠ [] := by
  unfold isLabelName at h
  split at h
  · rw [Bool.and_eq_true] at h
    obtain ⟨hstart, -⟩ := isNameStart_spec h.1
    refine ⟨?_, List.cons_ne_nil _ _⟩
    simp only [List.forall_mem_cons]
    refine ⟨hstart, fun c hc => ?_⟩
    have := List.all_eq_true.1 h.2 c hc
    simp only [Bool.or_eq_true, beq_iff_eq] at this
    obtain hc | rfl := this
    · exact isWordChar_of_isAlphanum hc
    · rfl
  · cases h

end Weaver
