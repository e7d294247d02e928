import Weaver.Proofs.Jimple.RoundTrip.Call

/-!
# What String Literals Stand For

The value of a literal is a sequence of code units. The reader knows what `n`, `t` and `r` stand for
behind a backslash, and of every other escape it keeps the characters behind the backslash. That is
right for quotes and for a backslash. For any other escape (`\b`, `\f`, `\s`, a Unicode escape or an
octal one) the constant is another text than the value, and nothing in the rest of the literal can
compensate for that: no escape has fewer characters than its value has code units, and those with
one character have another code unit than this character.

## Main definitions

* `StringLiteral.IsInside`: the insides of literals.
* `StringLiteral.escapeUnit?`, `StringLiteral.value?`: escapes and values.
* `StringLiteral.escapes`, `StringLiteral.preserved`: the escapes of a literal, and those that the
  reader understands.

## Main results

* `StringLiteral.value?_of_preserved`: literals that are understood.
* `StringLiteral.length_valueFrom_le`: the constant is never shorter than the value.
* `StringLiteral.value?_eq_iff`: **when the constant is the value**.
* `StringLiteral.read_literal_value`: what is read and written again.
-/

namespace Weaver.StringLiteral

/-! ### Literals and their escapes -/

/-- A text is the **inside of a literal**: its quotes have backslashes, and every backslash has a
character behind it. -/
inductive IsInside : Text → Prop
  | nil : IsInside []
  | char {c : Char} {s : Text} : c ≠ '"' → c ≠ '\\' → IsInside s → IsInside (c :: s)
  | escape (c : Char) {s : Text} : IsInside s → IsInside ('\\' :: c :: s)

/-- Nothing is to be escaped. -/
theorem isInside_of_forall {s : Text} (h : ∀ c ∈ s, c ≠ '"' ∧ c ≠ '\\') : IsInside s := by
  induction s with
  | nil => exact .nil
  | cons c s ih =>
    rw [List.forall_mem_cons] at h
    exact .char h.1.1 h.1.2 (ih h.2)

/-- The characters behind the backslashes that begin an escape. -/
def escapes : Text → List Char
  | [] => []
  | ['\\'] => []
  | '\\' :: c :: s => c :: escapes s
  | _ :: s => escapes s

/-- The escapes that the reader understands. -/
def preserved : List Char :=
  ['n', 't', 'r', '"', '\'', '\\']

/-- Puts quotes around the inside of a literal. -/
def quoted (s : Text) : Text :=
  '"' :: s ++ ['"']

/-! ### Values -/

/-- The code units of a character in UTF-16. -/
def codeUnits (c : Char) : List Nat :=
  if c.toNat < 0x10000 then [c.toNat]
  else [0xD800 + (c.toNat - 0x10000) / 0x400, 0xDC00 + (c.toNat - 0x10000) % 0x400]

/-- The code units of a text. -/
def units (s : Text) : List Nat :=
  s.flatMap codeUnits

/-- The value of a digit in a base up to sixteen. -/
def digit? (base : Nat) (c : Char) : Option Nat :=
  let n :=
    if c.isDigit then c.toNat - '0'.toNat
    else if 'a' ≤ c ∧ c ≤ 'f' then c.toNat - 'a'.toNat + 10
    else if 'A' ≤ c ∧ c ≤ 'F' then c.toNat - 'A'.toNat + 10
    else base
  if n < base then some n else none

/-- The number that has the digits of `n` in front of those of a text. -/
def number? (base n : Nat) : Text → Option Nat
  | [] => some n
  | c :: s => (digit? base c).bind fun d => number? base (base * n + d) s

/-- What a backslash and one other character stand for. -/
def simpleUnit? : Char → Option Nat
  | 'b' => some 8
  | 't' => some 9
  | 'n' => some 10
  | 'f' => some 12
  | 'r' => some 13
  | 's' => some 32
  | '"' => some 34
  | '\'' => some 39
  | '\\' => some 92
  | _ => none

/-- The octal digits at the beginning of a text: up to three if the number is below 256. -/
def octalDigits (s : Text) : Text :=
  (s.takeWhile fun c => (digit? 8 c).isSome).take (if s.head?.any (· ≤ '3') then 3 else 2)

/-- The code unit of the escape whose backslash stands in front of the text, and how many characters
of the text belong to it. -/
def escapeUnit? : Text → Option (Nat × Nat)
  | [] => none
  | 'u' :: s =>
    if 4 ≤ s.length then (number? 16 0 (s.take 4)).map fun unit => (unit, 5) else none
  | c :: s =>
    match simpleUnit? c with
    | some unit => some (unit, 1)
    | none =>
      let digits := octalDigits (c :: s)
      if digits = [] then none else (number? 8 0 digits).map fun unit => (unit, digits.length)

/-- The value of what follows so many characters, if all escapes there are any. -/
def valueFrom : Nat → Text → Option (List Nat)
  | _, [] => some []
  | n + 1, _ :: s => valueFrom n s
  | 0, c :: s =>
    if c = '\\' then
      match escapeUnit? s with
      | some (unit, n) => (valueFrom n s).map (unit :: ·)
      | none => none
    else (valueFrom 0 s).map (codeUnits c ++ ·)

/-- **The value of a literal** with this inside, as code units. -/
def value? (s : Text) : Option (List Nat) :=
  valueFrom 0 s

/-! ### The reader at an escape and elsewhere -/

/-- A character that is no backslash is kept. -/
theorem unescape_cons {c : Char} (h : c ≠ '\\') (s : Text) :
    unescape (c :: s) = c :: unescape s := by
  rw [unescape] <;> simp [h]

/-- Text without backslashes is kept. -/
theorem unescape_append {s : Text} (h : ∀ c ∈ s, c ≠ '\\') (t : Text) :
    unescape (s ++ t) = s ++ unescape t := by
  induction s with
  | nil => rfl
  | cons c s ih =>
    rw [List.forall_mem_cons] at h
    rw [List.cons_append, unescape_cons h.1, ih h.2, List.cons_append]

/-- The code units of a character stand in front of those of the text. -/
theorem units_cons (c : Char) (s : Text) : units (c :: s) = codeUnits c ++ units s :=
  List.flatMap_cons

/-- The code units of two texts stand behind each other. -/
theorem units_append (s t : Text) : units (s ++ t) = units s ++ units t :=
  List.flatMap_append

/-- Every character has a code unit. -/
theorem codeUnits_ne_nil (c : Char) : codeUnits c ≠ [] := by
  rw [codeUnits]
  split <;> exact List.cons_ne_nil _ _

/-- A text has as many code units as characters at least. -/
theorem length_le_units (s : Text) : s.length ≤ (units s).length := by
  induction s with
  | nil => exact Nat.le_refl _
  | cons c s ih =>
    have := List.length_pos_of_ne_nil (codeUnits_ne_nil c)
    rw [units_cons, List.length_append, List.length_cons]
    omega

/-- The value behind some characters is that of the rest. -/
theorem valueFrom_eq_value? (n : Nat) (s : Text) : valueFrom n s = value? (s.drop n) := by
  induction n generalizing s with
  | zero => rfl
  | succ n ih =>
    cases s with
    | nil => rfl
    | cons c s => exact ih s

/-- A character that is no backslash stands for itself. -/
theorem value?_cons {c : Char} (h : c ≠ '\\') (s : Text) :
    value? (c :: s) = (value? s).map (codeUnits c ++ ·) := by
  rw [value?, valueFrom, if_neg h, value?]

/-- An escape stands for its code unit. -/
theorem value?_backslash {s : Text} {unit n : Nat} (h : escapeUnit? s = some (unit, n)) :
    value? ('\\' :: s) = (value? (s.drop n)).map (unit :: ·) := by
  rw [value?, valueFrom, if_pos rfl, h, ← valueFrom_eq_value?]

/-- A value that begins with an escape. -/
theorem value?_backslash_eq_some {s : Text} {w : List Nat} (h : value? ('\\' :: s) = some w) :
    ∃ unit n v, escapeUnit? s = some (unit, n) ∧ value? (s.drop n) = some v ∧ w = unit :: v := by
  cases he : escapeUnit? s with
  | none =>
    rw [value?, valueFrom, if_pos rfl, he] at h
    cases h
  | some e =>
    rw [value?_backslash he] at h
    obtain ⟨v, hv, rfl⟩ := Option.map_eq_some_iff.1 h
    exact ⟨e.1, e.2, v, rfl, hv, rfl⟩

/-! ### One escape -/

/-- A number has digits only. -/
theorem isSome_of_number? {base m n : Nat} {s : Text} (h : number? base m s = some n) :
    ∀ c ∈ s, (digit? base c).isSome = true := by
  induction s generalizing m with
  | nil => exact fun _ hc => absurd hc List.not_mem_nil
  | cons c s ih =>
    obtain ⟨d, hd, hrest⟩ := Option.bind_eq_some_iff.1 h
    rw [List.forall_mem_cons]
    exact ⟨by rw [hd]; rfl, ih hrest⟩

/-- A digit is no backslash. -/
theorem ne_backslash_of_digit? {base : Nat} {c : Char} (h : (digit? base c).isSome = true) :
    c ≠ '\\' := by
  rintro rfl
  have hnone : digit? base '\\' = none := if_neg (Nat.lt_irrefl base)
  rw [hnone] at h
  cases h

/-- An octal digit is not the character that it stands for. -/
theorem digit?_spec {c : Char} {n : Nat} (h : digit? 8 c = some n) :
    c.isDigit = true ∧ n ≠ c.toNat := by
  have h0 : ('0' : Char).toNat = 48 := rfl
  simp only [digit?, Option.ite_none_right_eq_some, Option.some.injEq] at h
  obtain ⟨hlt, rfl⟩ := h
  split at hlt
  next hdigit =>
    have := isDigit_iff.1 hdigit
    rw [if_pos hdigit]
    exact ⟨hdigit, by omega⟩
  · exfalso
    split at hlt
    · omega
    · split at hlt <;> omega

/-- The number with one digit. -/
theorem digit?_of_number? {base n : Nat} {c : Char} (h : number? base 0 [c] = some n) :
    digit? base c = some n := by
  obtain ⟨d, hd, heq⟩ := Option.bind_eq_some_iff.1 h
  obtain rfl : base * 0 + d = n := Option.some.inj heq
  rwa [Nat.mul_zero, Nat.zero_add]

/-- The first octal digit is followed by the others. -/
theorem exists_octalDigits {c : Char} {s : Text} (hne : octalDigits (c :: s) ≠ []) :
    ∃ cs rest, s = cs ++ rest ∧ octalDigits (c :: s) = c :: cs := by
  obtain ⟨rest, hrest⟩ : octalDigits (c :: s) <+: c :: s :=
    (List.take_prefix _ _).trans (List.takeWhile_prefix _)
  cases hdigits : octalDigits (c :: s) with
  | nil => exact absurd hdigits hne
  | cons d cs =>
    rw [hdigits] at hrest
    obtain ⟨rfl, rfl⟩ := List.cons.inj hrest
    exact ⟨cs, rest, rfl, rfl⟩

/-- **All that an escape can be**: one character that stands for something, an octal digit, or more
than one character. -/
theorem escapeUnit?_eq_some {t : Text} {unit n : Nat} (h : escapeUnit? t = some (unit, n)) :
    ∃ c cs s, t = c :: cs ++ s ∧ n = cs.length + 1 ∧ (∀ d ∈ cs, d ≠ '\\') ∧
      (cs = [] → simpleUnit? c = some unit ∨ digit? 8 c = some unit) := by
  -- The Unicode form takes four digits, the octal form one or more.
  unfold escapeUnit? at h
  split at h
  · cases h
  next s =>
    split at h
    next hlength =>
      obtain ⟨unit, hunit, heq⟩ := Option.map_eq_some_iff.1 h
      obtain ⟨rfl, rfl⟩ := Prod.mk.inj heq
      have htake : (s.take 4).length = 4 := by rw [List.length_take]; omega
      refine ⟨'u', s.take 4, s.drop 4, ?_, by rw [htake], ?_, fun hnil => ?_⟩
      · rw [List.cons_append, List.take_append_drop]
      · exact fun d hd => ne_backslash_of_digit? (isSome_of_number? hunit d hd)
      · rw [hnil] at htake
        cases htake
    · cases h
  next c s hu =>
    split at h
    next unit' hsimple =>
      obtain ⟨rfl, rfl⟩ := Prod.mk.inj (Option.some.inj h)
      exact ⟨c, [], s, rfl, rfl, fun d hd => absurd hd List.not_mem_nil, fun _ => .inl hsimple⟩
    next hsimple =>
      dsimp only at h
      split at h
      · cases h
      next hne =>
        obtain ⟨unit, hunit, heq⟩ := Option.map_eq_some_iff.1 h
        obtain ⟨rfl, rfl⟩ := Prod.mk.inj heq
        obtain ⟨cs, rest, rfl, hdigits⟩ := exists_octalDigits hne
        rw [hdigits] at hunit ⊢
        refine ⟨c, cs, rest, rfl, rfl, fun d hd => ?_, fun hnil => .inr ?_⟩
        · exact ne_backslash_of_digit? (isSome_of_number? hunit d (List.mem_cons_of_mem _ hd))
        · rw [hnil] at hunit
          exact digit?_of_number? hunit

/-- What the reader makes of a backslash and characters without another one. -/
theorem unescape_backslash (c : Char) {cs : Text} (h : ∀ d ∈ cs, d ≠ '\\') (s : Text) :
    unescape ('\\' :: (c :: cs ++ s)) = escaped c :: (cs ++ unescape s) := by
  rw [List.cons_append, unescape, unescape_append h]

/-! ### Values and constants -/

/-- The constant is **never shorter** than the value: an escape keeps at least one character, and
its value has one code unit. -/
theorem length_valueFrom_le {n : Nat} {s : Text} {v : List Nat} (h : valueFrom n s = some v) :
    v.length ≤ (units (unescape (s.drop n))).length := by
  induction s generalizing n v with
  | nil =>
    obtain rfl : [] = v := by cases n <;> exact Option.some.inj h
    exact Nat.zero_le _
  | cons c s ih =>
    cases n with
    | succ n => exact ih h
    | zero =>
      rw [List.drop_zero]
      by_cases hc : c = '\\'
      · subst hc
        rw [valueFrom, if_pos rfl] at h
        split at h
        next unit n he =>
          obtain ⟨v, hv, rfl⟩ := Option.map_eq_some_iff.1 h
          have hrest := ih hv
          obtain ⟨c, cs, s, rfl, rfl, hplain, -⟩ := escapeUnit?_eq_some he
          have hfirst := List.length_pos_of_ne_nil (codeUnits_ne_nil (escaped c))
          rw [show cs.length + 1 = (c :: cs).length from rfl, List.drop_left] at hrest
          rw [unescape_backslash c hplain, units_cons, units_append, List.length_append,
            List.length_append, List.length_cons]
          omega
        · cases h
      · rw [valueFrom, if_neg hc] at h
        obtain ⟨v, hv, rfl⟩ := Option.map_eq_some_iff.1 h
        have hrest := ih hv
        rw [List.drop_zero] at hrest
        rw [unescape_cons hc, units_cons, List.length_append, List.length_append]
        omega

/-- A character that is no backslash begins no escape. -/
theorem escapes_cons {c : Char} (h : c ≠ '\\') (s : Text) : escapes (c :: s) = escapes s := by
  rw [escapes] <;> simp [h]

/-- The escapes that are understood stand for the character they are read as. -/
theorem escapeUnit?_of_preserved {c : Char} (h : c ∈ preserved) (s : Text) :
    ∃ unit, escapeUnit? (c :: s) = some (unit, 1) ∧ codeUnits (escaped c) = [unit] := by
  simp only [preserved, List.mem_cons, List.not_mem_nil, or_false] at h
  obtain rfl | rfl | rfl | rfl | rfl | rfl := h <;> exact ⟨_, rfl, rfl⟩

/-- What else one character stands for behind a backslash is not what it stands for alone. -/
theorem head?_codeUnits_escaped {c : Char} {unit : Nat} (hc : c ∉ preserved)
    (h : simpleUnit? c = some unit ∨ digit? 8 c = some unit) :
    (codeUnits (escaped c)).head? ≠ some unit := by
  obtain h | h := h
  · unfold simpleUnit? at h
    split at h
    all_goals first
      | exact absurd (by decide) hc
      | (obtain rfl := Option.some.inj h; decide)
      | cases h
  · obtain ⟨hdigit, hne⟩ := digit?_spec h
    have hself : escaped c = c := by
      unfold escaped
      split <;> first | rfl | cases hdigit
    have hcode : codeUnits c = [c.toNat] := by
      rw [codeUnits, if_pos]
      have := isDigit_iff.1 hdigit
      omega
    rw [hself, hcode, List.head?_cons]
    exact fun heq => hne (Option.some.inj heq).symm

/-- A literal without other escapes than those that are understood **has its constant as value**. -/
theorem value?_of_preserved {s : Text} (hs : IsInside s) (h : ∀ c ∈ escapes s, c ∈ preserved) :
    value? s = some (units (unescape s)) := by
  induction hs with
  | nil => rfl
  | char hquote hslash _ ih =>
    rw [escapes_cons hslash] at h
    rw [value?_cons hslash, ih h, unescape_cons hslash, units_cons, Option.map_some]
  | escape c _ ih =>
    rw [escapes, List.forall_mem_cons] at h
    obtain ⟨unit, hunit, hcode⟩ := escapeUnit?_of_preserved h.1 _
    rw [value?_backslash hunit, List.drop_one, List.tail_cons, ih h.2, unescape, units_cons, hcode,
      Option.map_some, List.singleton_append]

/-- **Other escapes lose their value**: if the constant is the value, all escapes are understood. -/
theorem preserved_of_value? {s : Text} (hs : IsInside s)
    (h : value? s = some (units (unescape s))) : ∀ c ∈ escapes s, c ∈ preserved := by
  induction hs with
  | nil => exact fun _ hc => absurd hc List.not_mem_nil
  | char hquote hslash _ ih =>
    rw [value?_cons hslash, unescape_cons hslash, units_cons] at h
    obtain ⟨v, hv, heq⟩ := Option.map_eq_some_iff.1 h
    rw [escapes_cons hslash]
    exact ih (List.append_cancel_left heq ▸ hv)
  | @escape c s _ ih =>
    rw [unescape, units_cons] at h
    obtain ⟨unit, n, v, he, hv, heq⟩ := value?_backslash_eq_some h
    rw [escapes, List.forall_mem_cons]
    by_cases hc : c ∈ preserved
    · obtain ⟨unit', hunit, hcode⟩ := escapeUnit?_of_preserved hc s
      obtain ⟨rfl, rfl⟩ : unit' = unit ∧ 1 = n := by simpa [hunit] using he
      rw [hcode] at heq
      rw [List.drop_one, List.tail_cons, ← (List.cons.inj heq).2] at hv
      exact ⟨hc, ih hv⟩
    · -- The first code unit is another one, or there are more of them.
      exfalso
      obtain ⟨c', cs, s', hcut, rfl, hplain, hone⟩ := escapeUnit?_eq_some he
      obtain ⟨rfl, rfl⟩ : c = c' ∧ s = cs ++ s' := List.cons.inj hcut
      cases cs with
      | nil =>
        refine head?_codeUnits_escaped hc (hone rfl) ?_
        rw [← List.head?_append_of_ne_nil _ (codeUnits_ne_nil _), heq, List.head?_cons]
      | cons d cs =>
        -- The value has one code unit for all of the escape, and the constant one for the backslash
        -- with the first character and more for the others.
        have hle : v.length ≤ (units (unescape s')).length := by
          have := length_valueFrom_le hv
          rwa [List.drop_zero, List.drop_succ_cons, List.drop_left] at this
        have hfirst := List.length_pos_of_ne_nil (codeUnits_ne_nil (escaped c))
        have hothers := length_le_units (d :: cs)
        have hlength := congrArg List.length heq
        rw [unescape_append hplain, units_append, List.length_append, List.length_append,
          List.length_cons] at hlength
        rw [List.length_cons] at hothers
        omega

/-- The constant **is the value** of its literal exactly if all escapes are understood. -/
theorem value?_eq_iff {s : Text} (hs : IsInside s) :
    value? s = some (units (unescape s)) ↔ ∀ c ∈ escapes s, c ∈ preserved :=
  ⟨preserved_of_value? hs, value?_of_preserved hs⟩

/-! ### Reading and writing -/

/-- **What is written between quotes** is the inside of a literal. -/
theorem isInside_escape (v : Text) : IsInside (escape v) := by
  fun_induction escape v with
  | case1 => exact .nil
  | case2 _ ih | case3 _ ih | case4 _ ih | case5 _ ih | case6 _ ih => exact .escape _ ih
  | case7 c _ hquote hslash _ _ _ ih => exact .char (fun h => hquote h) (fun h => hslash h) ih

/-- The writer knows fewer escapes than the reader. -/
theorem preserved_of_mem_escapes_escape (v : Text) : ∀ c ∈ escapes (escape v), c ∈ preserved := by
  fun_induction escape v with
  | case1 => exact fun _ hc => absurd hc List.not_mem_nil
  | case2 _ ih | case3 _ ih | case4 _ ih | case5 _ ih | case6 _ ih =>
    rw [escapes, List.forall_mem_cons]
    exact ⟨by decide, ih⟩
  | case7 c _ _ hslash _ _ _ ih =>
    rw [escapes_cons fun h => hslash h]
    exact ih

/-- **What is written** has the constant as value. -/
theorem value?_escape (v : Text) : value? (escape v) = some (units v) := by
  rw [value?_of_preserved (isInside_escape v) (preserved_of_mem_escapes_escape v), unescape_escape]

/-- Behind the inside of a literal, the literal is still open. -/
theorem IsInside.walk {ok : Char → Bool} {next : Option Char} {s : Text} (h : IsInside s) :
    Zone.walk ok (.quoted false) s next = some (.quoted false) := by
  induction h with
  | nil => rfl
  | char hquote hslash _ ih =>
    rw [Zone.walk_quoted_cons, Zone.after, if_neg hslash, if_neg hquote]
    exact ih
  | escape c _ ih => rw [Zone.walk_backslash, ih]

/-- **Every literal is read.** -/
theorem IsInside.read_quoted {s : Text} (h : IsInside s) :
    Value.read (quoted s) = .ok (.const (.string (unescape s))) := by
  have htrim : Text.trim (quoted s) = quoted s := (isTight_quote.append s isTight_quote).trim_eq
  rw [Value.read_of_trim htrim (isNoCall_of_head (by decide)), Value.readSimple, quoted,
    Constant.read?_literal fun _ => h.walk]
  rfl

/-- **What reading and writing keep of a literal.** Every literal is read, and the constant is
written as a literal that stands for it. It has the value of the one that was read exactly if all
escapes there are understood, and literals for which this holds are told apart if they have
different values. -/
theorem read_literal_value {s : Text} (hs : IsInside s) :
    ∃ v, Value.read (quoted s) = .ok (.const (.string v)) ∧
      (Value.const (.string v)).text = quoted (escape v) ∧ IsInside (escape v) ∧
      value? (escape v) = some (units v) ∧
      (value? (escape v) = value? s ↔ ∀ c ∈ escapes s, c ∈ preserved) ∧
      ∀ t, IsInside t → (∀ c ∈ escapes s ++ escapes t, c ∈ preserved) →
        Value.read (quoted t) = Value.read (quoted s) → value? t = value? s := by
  refine ⟨unescape s, hs.read_quoted, rfl, isInside_escape _, value?_escape _, ?_, ?_⟩
  · rw [value?_escape, eq_comm, value?_eq_iff hs]
  · intro t ht h heq
    rw [List.forall_mem_append] at h
    rw [hs.read_quoted, ht.read_quoted] at heq
    have hconstant : unescape t = unescape s := by simpa using heq
    rw [value?_of_preserved ht h.2, value?_of_preserved hs h.1, hconstant]

/-- An escaped apostrophe and a line break are read as what they stand for. -/
theorem read_literal_value_apostrophe :
    IsInside "it\\'s\\n".toList ∧ ∃ v,
      Value.read (quoted "it\\'s\\n".toList) = .ok (.const (.string v)) ∧
      value? (escape v) = value? "it\\'s\\n".toList := by
  have hend : IsInside "s\\n".toList := .char (by decide) (by decide) (.escape 'n' .nil)
  have hs : IsInside "it\\'s\\n".toList :=
    .char (by decide) (by decide) (.char (by decide) (by decide) (.escape '\'' hend))
  obtain ⟨v, hread, -, -, -, hiff, -⟩ := read_literal_value hs
  exact ⟨hs, v, hread, hiff.2 (by decide)⟩

/-- **A Unicode escape is not understood**: it is read like a literal with another value. -/
theorem read_unicode_eq :
    IsInside "\\u0041".toList ∧ IsInside "u0041".toList ∧
      value? "\\u0041".toList = some (units "A".toList) ∧
      value? "\\u0041".toList ≠ value? "u0041".toList ∧
      Value.read (quoted "\\u0041".toList) = .ok (.const (.string "u0041".toList)) ∧
      Value.read (quoted "u0041".toList) = .ok (.const (.string "u0041".toList)) := by
  have hunicode : IsInside "\\u0041".toList := .escape 'u' (isInside_of_forall (by decide))
  have hletters : IsInside "u0041".toList := isInside_of_forall (by decide)
  exact ⟨hunicode, hletters, by decide, by decide, hunicode.read_quoted, hletters.read_quoted⟩

end Weaver.StringLiteral
