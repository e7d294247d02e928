import Weaver.Cli.Value

/-!
# The Grammar of Replacement Arguments

A replacement argument is a pattern, an equals sign and the text that replaces what matches. An
equals sign inside the pattern has a backslash in front of it, and that is all that a backslash can
do: any other one stands for itself. So a pattern that ends in a backslash cannot be written, since
the separator behind it would belong to the pattern, and every other non-empty pattern is written in
one way.

## Main definitions

* `escapeEquals`: a pattern as it is written.
* `IsReplacement`: what an argument says.

## Main results

* `cutReplacement?_eq_some_iff`: **cutting undoes writing**.
* `readReplacement_eq_ok_iff`, `readReplacement_eq_error_iff`: what is read, and what is rejected.
* `readReplacement_grammar`: these together.
-/

namespace Weaver

/-- A pattern with a backslash in front of each equals sign. -/
def escapeEquals (pattern : Text) : Text :=
  pattern.flatMap fun c => if c = '=' then ['\\', '='] else [c]

/-- **An argument says to replace a pattern by a text**: the pattern is not empty and does not end
with a backslash, and the argument is made up of both. -/
structure IsReplacement (value pattern new : Text) : Prop where
  ne_nil : pattern ≠ []
  last_ne : pattern.getLast? ≠ some '\\'
  text_eq : value = escapeEquals pattern ++ '=' :: new

/-! ### Cutting -/

variable {s pattern new value : Text}

/-- An equals sign is written with a backslash in front. -/
theorem escapeEquals_cons_self (pattern : Text) :
    escapeEquals ('=' :: pattern) = '\\' :: '=' :: escapeEquals pattern :=
  rfl

/-- Any other character is written as it is. -/
theorem escapeEquals_cons {c : Char} (hc : c ≠ '=') (pattern : Text) :
    escapeEquals (c :: pattern) = c :: escapeEquals pattern := by
  rw [escapeEquals, List.flatMap_cons, if_neg hc, List.singleton_append, escapeEquals]

/-- A written pattern never begins with an equals sign. -/
theorem head?_escapeEquals (hpattern : pattern ≠ []) (rest : Text) :
    (escapeEquals pattern ++ rest).head? ≠ some '=' := by
  obtain ⟨c, pattern, rfl⟩ := List.exists_cons_of_ne_nil hpattern
  by_cases hc : c = '='
  · subst hc
    exact fun h => absurd (Option.some.inj h) (by decide)
  · rw [escapeEquals_cons hc, List.cons_append, List.head?_cons, Ne, Option.some.injEq]
    exact hc

/-- What a pattern does not end in, it does not end in without its first character. -/
theorem getLast?_ne_of_cons {c d : Char} (h : (c :: pattern).getLast? ≠ some d) :
    pattern.getLast? ≠ some d := by
  cases pattern with
  | nil => exact fun hnil => nomatch hnil
  | cons e pattern => rwa [List.getLast?_cons_cons] at h

/-- What is cut from an argument was written into it. -/
theorem text_of_cutReplacement? (h : cutReplacement? s = some (pattern, new)) :
    pattern.getLast? ≠ some '\\' ∧ s = escapeEquals pattern ++ '=' :: new := by
  fun_induction cutReplacement? s generalizing pattern with
  | case1 => cases h
  | case2 s ih =>
    obtain ⟨⟨pattern, new⟩, hcut, heq⟩ := Option.map_eq_some_iff.1 h
    obtain ⟨rfl, rfl⟩ := Prod.mk.inj heq
    obtain ⟨hlast, rfl⟩ := ih hcut
    refine ⟨?_, rfl⟩
    cases pattern with
    | nil => decide
    | cons c pattern => rwa [List.getLast?_cons_cons]
  | case3 s =>
    obtain ⟨rfl, rfl⟩ := Prod.mk.inj (Option.some.inj h)
    exact ⟨by decide, rfl⟩
  | case4 c s hescape hequals ih =>
    obtain ⟨⟨pattern, new⟩, hcut, heq⟩ := Option.map_eq_some_iff.1 h
    obtain ⟨rfl, rfl⟩ := Prod.mk.inj heq
    obtain ⟨hlast, rfl⟩ := ih hcut
    refine ⟨?_, by rw [escapeEquals_cons hequals]; rfl⟩
    cases pattern with
    | nil =>
      -- a backslash in front of the separator would have taken it into the pattern
      intro hc
      exact hescape new (Option.some.inj hc) rfl
    | cons d pattern => rwa [List.getLast?_cons_cons]

/-- What is written is cut again. -/
theorem cutReplacement?_text (hlast : pattern.getLast? ≠ some '\\') (new : Text) :
    cutReplacement? (escapeEquals pattern ++ '=' :: new) = some (pattern, new) := by
  induction pattern with
  | nil => rfl
  | cons c pattern ih =>
    have hrest := ih (getLast?_ne_of_cons hlast)
    by_cases hc : c = '='
    · subst hc
      rw [escapeEquals_cons_self, List.cons_append, List.cons_append, cutReplacement?, hrest,
        Option.map_some]
    · have hnext : ∀ t, c = '\\' → escapeEquals pattern ++ '=' :: new = '=' :: t → False := by
        rintro t rfl hnext
        have hpattern : pattern ≠ [] := by
          rintro rfl
          exact hlast rfl
        exact head?_escapeEquals hpattern ('=' :: new) (by rw [hnext]; rfl)
      rw [escapeEquals_cons hc, List.cons_append, cutReplacement?.eq_4 _ _ hnext hc, hrest,
        Option.map_some]

/-- **Cutting undoes writing**, and what was not written is not cut. -/
theorem cutReplacement?_eq_some_iff :
    cutReplacement? s = some (pattern, new) ↔
      pattern.getLast? ≠ some '\\' ∧ s = escapeEquals pattern ++ '=' :: new := by
  constructor
  · exact text_of_cutReplacement?
  · rintro ⟨hlast, rfl⟩
    exact cutReplacement?_text hlast new

/-! ### Reading -/

/-- The replacements that a value stands for are those it is cut into, unless the pattern is
empty. -/
theorem isReplacement_iff :
    IsReplacement value pattern new ↔
      pattern ≠ [] ∧ cutReplacement? value = some (pattern, new) := by
  rw [cutReplacement?_eq_some_iff]
  constructor
  · exact fun h => ⟨h.ne_nil, h.last_ne, h.text_eq⟩
  · exact fun ⟨hne, hlast, htext⟩ => ⟨hne, hlast, htext⟩

/-- An argument says **one thing at most**. -/
theorem IsReplacement.unique {pattern' new' : Text} (h : IsReplacement value pattern new)
    (h' : IsReplacement value pattern' new') : pattern = pattern' ∧ new = new' := by
  have hcut := (isReplacement_iff.1 h).2
  rw [(isReplacement_iff.1 h').2, Option.some.injEq] at hcut
  exact Prod.mk.inj hcut.symm

/-- The reason why an argument that says nothing is rejected. -/
def replacementFault (value : Text) : ValueFault :=
  match value with
  | [] => .empty
  | '=' :: _ => .noPattern value
  | _ => .noReplacement value

/-- **All that reading can do**: it gives what the argument says, or it rejects an argument that
says nothing. -/
theorem readReplacement_cases (value : Text) :
    (∃ pattern new, IsReplacement value pattern new ∧
        readReplacement value = .ok (pattern, new)) ∨
      (¬ ∃ pattern new, IsReplacement value pattern new) ∧
        readReplacement value = .error (replacementFault value) := by
  simp only [isReplacement_iff]
  cases value with
  | nil =>
    refine .inr ⟨?_, rfl⟩
    rintro ⟨_, _, -, hcut⟩
    cases hcut
  | cons c s =>
    cases hcut : cutReplacement? (c :: s) with
    | none =>
      have hc : c ≠ '=' := by
        rintro rfl
        cases hcut
      refine .inr ⟨?_, ?_⟩
      · rintro ⟨_, _, -, h⟩
        cases h
      · rw [readReplacement, hcut, replacementFault]
        · rfl
        · simp
        · simpa using hc
    | some replacement =>
      obtain ⟨pattern, new⟩ := replacement
      cases pattern with
      | nil =>
        obtain ⟨rfl, rfl⟩ := List.cons.inj (cutReplacement?_eq_some_iff.1 hcut).2
        refine .inr ⟨?_, by rw [readReplacement, hcut]; rfl⟩
        rintro ⟨_, _, hne, h⟩
        exact hne (Prod.mk.inj (Option.some.inj h)).1.symm
      | cons d pattern =>
        have hread : readReplacement (c :: s) = .ok (d :: pattern, new) := by
          rw [readReplacement, hcut]
          rfl
        exact .inl ⟨d :: pattern, new, ⟨List.cons_ne_nil _ _, rfl⟩, hread⟩

/-- **What is read.** -/
theorem readReplacement_eq_ok_iff :
    readReplacement value = .ok (pattern, new) ↔ IsReplacement value pattern new := by
  obtain ⟨pattern', new', h', hread⟩ | ⟨hnone, hread⟩ := readReplacement_cases value
  · rw [hread, Except.ok.injEq, Prod.mk.injEq]
    constructor
    · rintro ⟨rfl, rfl⟩
      exact h'
    · exact fun h => h'.unique h
  · rw [hread]
    constructor
    · intro h
      cases h
    · exact fun h => absurd ⟨pattern, new, h⟩ hnone

/-- **What is rejected**, and with which words. -/
theorem readReplacement_eq_error_iff {fault : ValueFault} :
    readReplacement value = .error fault ↔
      (¬ ∃ pattern new, IsReplacement value pattern new) ∧ fault = replacementFault value := by
  obtain ⟨pattern, new, h, hread⟩ | ⟨hnone, hread⟩ := readReplacement_cases value
  · rw [hread]
    constructor
    · intro hfault
      cases hfault
    · exact fun hfault => absurd ⟨pattern, new, h⟩ hfault.1
  · rw [hread, Except.error.injEq, and_iff_right hnone, eq_comm]

/-- **The grammar of replacement arguments.** Exactly what an argument says is read, it says one
thing at most, and exactly the arguments that say nothing are rejected. -/
theorem readReplacement_grammar (value : Text) :
    (∀ pattern new,
        readReplacement value = .ok (pattern, new) ↔ IsReplacement value pattern new) ∧
      (∀ pattern new pattern' new', IsReplacement value pattern new →
        IsReplacement value pattern' new' → pattern = pattern' ∧ new = new') ∧
      ((∃ fault, readReplacement value = .error fault) ↔
        ¬ ∃ pattern new, IsReplacement value pattern new) := by
  refine ⟨fun _ _ => readReplacement_eq_ok_iff, fun _ _ _ _ h h' => h.unique h', ?_⟩
  constructor
  · rintro ⟨fault, hfault⟩
    exact (readReplacement_eq_error_iff.1 hfault).1
  · exact fun hnone => ⟨_, readReplacement_eq_error_iff.2 ⟨hnone, rfl⟩⟩

/-- A pattern with an equals sign and a backslash of its own, and an argument that says nothing
since its only equals sign has a backslash. -/
theorem readReplacement_grammar_attribute :
    IsReplacement "a\\d\\=\"0\"=d=\\=".toList "a\\d=\"0\"".toList "d=\\=".toList ∧
      readReplacement "a\\d\\=\"0\"=d=\\=".toList =
        .ok ("a\\d=\"0\"".toList, "d=\\=".toList) ∧
      ¬ ∃ pattern new, IsReplacement "a\\=b".toList pattern new := by
  have h : IsReplacement "a\\d\\=\"0\"=d=\\=".toList "a\\d=\"0\"".toList "d=\\=".toList :=
    ⟨by decide, by decide, by decide⟩
  have hfault : readReplacement "a\\=b".toList = .error (.noReplacement "a\\=b".toList) := rfl
  exact ⟨h, ((readReplacement_grammar _).1 _ _).2 h, (readReplacement_grammar _).2.2.1 ⟨_, hfault⟩⟩

end Weaver
