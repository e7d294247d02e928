import Weaver.Jimple.Reader.Value
import Weaver.Proofs.Text.Characters
import Weaver.Proofs.Text.Cutting

/-!
# Reading Back Numbers

Integers are read back from their decimal form, and the forms of the four kinds of numeric
constants exclude each other: only a long ends with `L`, only a float with `F`, and only an
integer has no other characters than digits behind its sign.

## Main results

* `readInt?_intText`: integers are read back.
* `isFloatText_chars`, `isDoubleText_chars`: the characters of floating-point constants.
* `Constant.read?_int`, `Constant.read?_long`, `Constant.read?_float`, `Constant.read?_double`:
  **numeric constants are read back**.
-/

namespace Weaver

/-! ### Integers -/

/-- A number has a digit. -/
theorem natText_ne_nil (n : Nat) : natText n ≠ [] :=
  Nat.toDigits_ne_nil

/-- A natural number is written in digits. -/
theorem isDigit_of_mem_natText {n : Nat} {c : Char} (h : c ∈ natText n) : c.isDigit = true :=
  Nat.isDigit_of_mem_toDigits (by decide) (by decide) h

/-- **Integers are read back.** -/
theorem readInt?_intText (n : Int) : readInt? (intText n) = some n := by
  cases n with
  | ofNat n =>
    have hdigits := isDigits_natText n
    have hhead : ∀ rest, natText n ≠ '-' :: rest := by
      intro rest h
      have : ('-').isDigit = true := isDigit_of_mem_natText (n := n) (h ▸ List.mem_cons_self)
      cases this
    rw [intText, readInt?, if_pos hdigits, natOfDigits_natText]
    · rfl
    · exact hhead
  | negSucc n =>
    rw [intText, readInt?, if_pos (isDigits_natText _), natOfDigits_natText]
    rfl

/-- A number begins with a digit or a minus. -/
theorem intText_head (n : Int) :
    ∃ c rest, intText n = c :: rest ∧ (c.isDigit = true ∨ c = '-') := by
  cases n with
  | ofNat n =>
    obtain ⟨c, rest, h⟩ := List.exists_cons_of_ne_nil (natText_ne_nil n)
    exact ⟨c, rest, h, .inl (isDigit_of_mem_natText (n := n) (h ▸ List.mem_cons_self))⟩
  | negSucc n => exact ⟨'-', _, rfl, .inr rfl⟩

/-- An integer is written in digits and a minus sign. -/
theorem intText_chars {n : Int} {c : Char} (h : c ∈ intText n) : c.isDigit = true ∨ c = '-' := by
  cases n with
  | ofNat n => exact .inl (isDigit_of_mem_natText h)
  | negSucc n =>
    obtain rfl | h := List.mem_cons.1 h
    · exact .inr rfl
    · exact .inl (isDigit_of_mem_natText h)

/-- A text with another character is no integer. -/
theorem readInt?_eq_none {s : Text} {c : Char} (hc : c ∈ s) (hdigit : c.isDigit = false)
    (hminus : c ≠ '-') : readInt? s = none := by
  have hno : ∀ digits : Text, c ∈ digits → isDigits digits = false := by
    intro digits hmem
    rw [isDigits, Bool.and_eq_false_iff]
    refine .inr ?_
    rw [List.all_eq_false]
    exact ⟨c, hmem, by rw [hdigit]; exact Bool.false_ne_true⟩
  unfold readInt?
  split
  next digits =>
    rw [if_neg]
    rw [hno digits ((List.mem_cons.1 hc).resolve_left hminus)]
    exact Bool.false_ne_true
  · rw [if_neg]
    rw [hno _ hc]
    exact Bool.false_ne_true

/-! ### Floating-point numbers -/

/-- Whether a character may stand in a floating-point constant before its suffix. -/
def isFloatingChar (c : Char) : Bool :=
  c.isDigit || c == '-' || c == '+' || c == '.' || c == 'e' || c == 'E'

/-- Digits occur in floating-point numbers. -/
theorem isFloatingChar_of_isDigit {c : Char} (h : c.isDigit = true) : isFloatingChar c = true := by
  rw [isFloatingChar, h]
  rfl

/-- What is skipped as digits is one digit and more of them. -/
theorem skipDigits?_eq_some {s rest : Text} (h : skipDigits? s = some rest) :
    ∃ c a, s = c :: a ++ rest ∧ c.isDigit = true ∧ ∀ d ∈ c :: a, isFloatingChar d = true := by
  unfold skipDigits? at h
  split at h
  · cases h
  next c s =>
    split at h
    next hc =>
      obtain rfl := Option.some.inj h
      refine ⟨c, s.takeWhile Char.isDigit, ?_, hc, ?_⟩
      · rw [List.cons_append, List.takeWhile_append_dropWhile]
      · rw [List.forall_mem_cons]
        refine ⟨isFloatingChar_of_isDigit hc, fun d hd => isFloatingChar_of_isDigit ?_⟩
        exact List.all_eq_true.1 List.all_takeWhile d hd
    · cases h

/-- What is skipped as an integer begins with a digit or a minus sign. -/
theorem skipInteger?_eq_some {s rest : Text} (h : skipInteger? s = some rest) :
    ∃ c a, s = c :: a ++ rest ∧ (c.isDigit = true ∨ c = '-') ∧
      ∀ d ∈ c :: a, isFloatingChar d = true := by
  unfold skipInteger? at h
  split at h
  · obtain ⟨c, a, rfl, -, hall⟩ := skipDigits?_eq_some h
    refine ⟨'-', c :: a, rfl, .inr rfl, ?_⟩
    rw [List.forall_mem_cons]
    exact ⟨rfl, hall⟩
  · obtain ⟨c, a, rfl, hc, hall⟩ := skipDigits?_eq_some h
    exact ⟨c, a, rfl, .inl hc, hall⟩

/-- What is skipped as a fraction begins with a point. -/
theorem skipFraction?_eq_some {s rest : Text} (h : skipFraction? s = some rest) :
    ∃ a, s = '.' :: a ++ rest ∧ ∀ d ∈ a, isFloatingChar d = true := by
  unfold skipFraction? at h
  split at h
  · obtain ⟨c, a, rfl, -, hall⟩ := skipDigits?_eq_some h
    exact ⟨c :: a, rfl, hall⟩
  · cases h

/-- What is skipped as an exponent has only characters of floating-point numbers. -/
theorem skipSigned?_eq_some {s rest : Text} (h : skipSigned? s = some rest) :
    ∃ a, s = a ++ rest ∧ ∀ d ∈ a, isFloatingChar d = true := by
  unfold skipSigned? at h
  split at h
  · obtain ⟨c, a, rfl, -, hall⟩ := skipDigits?_eq_some h
    refine ⟨'+' :: c :: a, rfl, ?_⟩
    rw [List.forall_mem_cons]
    exact ⟨rfl, hall⟩
  · obtain ⟨c, a, rfl, -, hall⟩ := skipInteger?_eq_some h
    exact ⟨c :: a, rfl, hall⟩

/-- An exponent, if there is one, is cut off the front. -/
theorem skipExponent_spec (s : Text) :
    ∃ a, s = a ++ skipExponent s ∧ ∀ d ∈ a, isFloatingChar d = true := by
  have hpart : ∀ e rest, isFloatingChar e = true →
      ∃ a, e :: rest = a ++ (skipSigned? rest).getD (e :: rest) ∧
        ∀ d ∈ a, isFloatingChar d = true := by
    intro e rest he
    cases h : skipSigned? rest with
    | none => exact ⟨[], rfl, by simp⟩
    | some tail =>
      obtain ⟨a, rfl, hall⟩ := skipSigned?_eq_some h
      refine ⟨e :: a, rfl, ?_⟩
      rw [List.forall_mem_cons]
      exact ⟨he, hall⟩
  unfold skipExponent
  split
  · exact hpart 'e' _ rfl
  · exact hpart 'E' _ rfl
  · exact ⟨[], rfl, by simp⟩

/-- **The characters of a float constant.** -/
theorem isFloatText_chars {s : Text} (h : isFloatText s = true) :
    ∃ c a, s = c :: a ++ ['F'] ∧ (c.isDigit = true ∨ c = '-') ∧
      ∀ d ∈ c :: a, isFloatingChar d = true := by
  unfold isFloatText at h
  split at h
  next rest hint =>
    obtain ⟨c, a, rfl, hc, hall⟩ := skipInteger?_eq_some hint
    obtain ⟨a₂, htail, hall₂⟩ : ∃ a₂, rest = a₂ ++ (skipFraction? rest).getD rest ∧
        ∀ d ∈ a₂, isFloatingChar d = true := by
      cases hf : skipFraction? rest with
      | none => exact ⟨[], rfl, by simp⟩
      | some tail =>
        obtain ⟨a₂, rfl, hall₂⟩ := skipFraction?_eq_some hf
        refine ⟨'.' :: a₂, rfl, ?_⟩
        rw [List.forall_mem_cons]
        exact ⟨rfl, hall₂⟩
    obtain ⟨a₃, hexp, hall₃⟩ := skipExponent_spec ((skipFraction? rest).getD rest)
    rw [eq_of_beq h] at hexp
    refine ⟨c, a ++ a₂ ++ a₃, ?_, hc, ?_⟩
    · rw [htail, hexp]
      simp
    · intro d hd
      rw [← List.cons_append, ← List.cons_append, List.mem_append, List.mem_append] at hd
      obtain (hd | hd) | hd := hd
      · exact hall d hd
      · exact hall₂ d hd
      · exact hall₃ d hd
  · cases h

/-- **The characters of a double constant.** -/
theorem isDoubleText_chars {s : Text} (h : isDoubleText s = true) :
    ∃ c a, s = c :: a ∧ (c.isDigit = true ∨ c = '-') ∧ '.' ∈ a ∧
      ∀ d ∈ c :: a, isFloatingChar d = true := by
  unfold isDoubleText at h
  split at h
  next rest hbind =>
    obtain ⟨mid, hint, hfrac⟩ := Option.bind_eq_some_iff.1 hbind
    obtain ⟨c, a, rfl, hc, hall⟩ := skipInteger?_eq_some hint
    obtain ⟨a₂, rfl, hall₂⟩ := skipFraction?_eq_some hfrac
    obtain ⟨a₃, hexp, hall₃⟩ := skipExponent_spec rest
    rw [eq_of_beq h, List.append_nil] at hexp
    subst hexp
    refine ⟨c, a ++ '.' :: (a₂ ++ rest), by simp, hc, by simp, ?_⟩
    intro d hd
    rw [← List.cons_append, List.mem_append] at hd
    obtain hd | hd := hd
    · exact hall d hd
    · obtain rfl | hd := List.mem_cons.1 hd
      · rfl
      · obtain hd | hd := List.mem_append.1 hd
        · exact hall₂ d hd
        · exact hall₃ d hd
  · cases h

/-! ### Numeric constants -/

namespace Constant

/-- A text that begins like a number is no other constant. -/
theorem read?_of_head {c : Char} {s : Text} (hc : c.isDigit = true ∨ c = '-') :
    read? (c :: s) = (readIntConstant? (c :: s)).or
      ((readLongConstant? (c :: s)).or (readFloating? (c :: s))) := by
  have hne : ∀ d, d.isDigit = false → d ≠ '-' → c ≠ d := by
    rintro d hdigit hminus rfl
    obtain hc | hc := hc
    · rw [hc] at hdigit
      cases hdigit
    · exact hminus hc
  have hnull : c :: s ≠ "null".toList := by
    intro h
    exact hne 'n' rfl (by decide) (List.cons.inj h).1
  have hstring : readString? (c :: s) = none := by
    unfold readString?
    split
    next h => exact absurd (List.cons.inj h).1 (hne '"' rfl (by decide))
    · rfl
  have hclass : readClassConstant? (c :: s) = none := by
    have hprefix : Text.stripPrefix? "class \"".toList (c :: s) = none :=
      Text.stripPrefix?_eq_none_of_head (hne 'c' rfl (by decide))
    rw [readClassConstant?, hprefix]
    rfl
  rw [read?, if_neg hnull, hstring, hclass, Option.none_or, Option.none_or]

/-- What has no `L` is no long constant. -/
theorem readLongConstant?_eq_none {s : Text} (h : 'L' ∉ s) : readLongConstant? s = none := by
  have hsuffix : longDigits? s = none :=
    Text.stripSuffix?_eq_none_of_not_mem (by decide) h
  rw [readLongConstant?, hsuffix]
  rfl

/-- What has a character that no integer has is no int constant. -/
theorem readIntConstant?_eq_none {s : Text} {c : Char} (hc : c ∈ s) (hdigit : c.isDigit = false)
    (hminus : c ≠ '-') : readIntConstant? s = none := by
  rw [readIntConstant?, readInt?_eq_none hc hdigit hminus]

/-- **An int constant is read back.** -/
theorem read?_int (n : Int32) : read? (intText n.toInt) = some (.int n) := by
  obtain ⟨c, s, h, hc⟩ := intText_head n.toInt
  have hfits : fitsSigned 32 n.toInt = true := by
    have hcount : (negativeCount 32 : Int) = 2 ^ 31 := by decide
    rw [fitsSigned, hcount, Bool.and_eq_true]
    exact ⟨decide_eq_true n.le_toInt, decide_eq_true n.toInt_lt⟩
  have hread : readIntConstant? (intText n.toInt) = some (.int n) := by
    rw [readIntConstant?, readInt?_intText]
    simp only [hfits, if_true, Int32.ofInt_toInt]
  rw [h, read?_of_head hc, ← h, hread, Option.some_or]

/-- **A long constant is read back.** -/
theorem read?_long (n : Int64) : read? (intText n.toInt ++ "L".toList) = some (.long n) := by
  obtain ⟨c, s, h, hc⟩ := intText_head n.toInt
  have hfits : fitsSigned 64 n.toInt = true := by
    have hcount : (negativeCount 64 : Int) = 2 ^ 63 := by decide
    rw [fitsSigned, hcount, Bool.and_eq_true]
    exact ⟨decide_eq_true n.le_toInt, decide_eq_true n.toInt_lt⟩
  have hint : readIntConstant? (intText n.toInt ++ "L".toList) = none :=
    readIntConstant?_eq_none (c := 'L') (List.mem_append_right _ (by decide)) rfl (by decide)
  have hread : readLongConstant? (intText n.toInt ++ "L".toList) = some (.long n) := by
    rw [readLongConstant?, longDigits?, Text.stripSuffix?_append, Option.bind_some,
      readInt?_intText]
    simp only [hfits, if_true, Int64.ofInt_toInt]
  have hform : intText n.toInt ++ "L".toList = c :: (s ++ "L".toList) := by
    rw [h, List.cons_append]
  rw [hform, read?_of_head hc, ← hform, hint, hread, Option.none_or, Option.some_or]

/-- **A float constant is read back** as it is written. -/
theorem read?_float {s : Text} (h : isFloatText s = true) : read? s = some (.float s) := by
  obtain ⟨c, a, hs, hc, hall⟩ := isFloatText_chars h
  have hint : readIntConstant? s = none := by
    refine readIntConstant?_eq_none (c := 'F') ?_ rfl (by decide)
    rw [hs]
    exact List.mem_append_right _ List.mem_cons_self
  have hlong : readLongConstant? s = none := by
    refine readLongConstant?_eq_none fun hmem => ?_
    rw [hs, List.mem_append] at hmem
    obtain hmem | hmem := hmem
    · cases hall 'L' hmem
    · exact absurd hmem (by decide)
  have hread : readFloating? s = some (.float s) := by
    rw [readFloating?, if_pos h]
  have hform : s = c :: (a ++ ['F']) := by rw [hs, List.cons_append]
  rw [hform, read?_of_head hc, ← hform, hint, hlong, hread, Option.none_or, Option.none_or]

/-- **A double constant is read back** as it is written. -/
theorem read?_double {s : Text} (h : isDoubleText s = true) : read? s = some (.double s) := by
  obtain ⟨c, a, hs, hc, hpoint, hall⟩ := isDoubleText_chars h
  have hint : readIntConstant? s = none := by
    refine readIntConstant?_eq_none (c := '.') ?_ rfl (by decide)
    rw [hs]
    exact List.mem_cons_of_mem _ hpoint
  have hlong : readLongConstant? s = none := by
    refine readLongConstant?_eq_none fun hmem => ?_
    rw [hs] at hmem
    cases hall 'L' hmem
  have hfloat : isFloatText s = false := by
    rw [Bool.eq_false_iff]
    intro hfloat
    obtain ⟨c', a', hs', -, -⟩ := isFloatText_chars hfloat
    have hmem : 'F' ∈ c :: a := by
      rw [← hs, hs']
      exact List.mem_append_right _ List.mem_cons_self
    cases hall 'F' hmem
  have hread : readFloating? s = some (.double s) := by
    rw [readFloating?, hfloat, h]
    rfl
  rw [hs, read?_of_head hc, ← hs, hint, hlong, hread, Option.none_or, Option.none_or]

end Constant

end Weaver
