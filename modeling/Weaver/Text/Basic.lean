/-!
# Texts as Lists of Characters

A `Text` is a list of characters. Cutting, searching and replacing are list recursions
here, so that the readers and printers built on them can be reasoned about by
induction on the text.

## Main definitions

* `Text.stripPrefix?`, `Text.stripSuffix?`: remove a fixed beginning or end.
* `Text.cutAt?`, `Text.cutAtLast?`: split around the first or last occurrence.
* `Text.splitOn`, `Text.lines`, `Text.join`: lists of pieces.
* `Text.replaceAll`: replace every occurrence of a pattern, left to right.
-/

namespace Weaver

/-- A text, as the list of its characters. -/
abbrev Text := List Char

/-- The brace that opens a block. -/
def openingBrace : Text :=
  "\x7b".toList

/-- The brace that closes a block. -/
def closingBrace : Text :=
  "\x7d".toList

namespace Text

/-! ### Fixed beginnings and ends -/

/-- The rest of `s` after `p`, if `s` starts with `p`. -/
def stripPrefix? : Text → Text → Option Text
  | [], s => some s
  | _ :: _, [] => none
  | a :: p, b :: s => if a = b then stripPrefix? p s else none

/-- Whether `s` starts with `p`. -/
def startsWith (s p : Text) : Bool :=
  (stripPrefix? p s).isSome

/-- The beginning of `s` before `p`, if `s` ends with `p`. -/
def stripSuffix? (p s : Text) : Option Text :=
  (stripPrefix? p.reverse s.reverse).map List.reverse

/-- Whether `s` ends with `p`. -/
def endsWith (s p : Text) : Bool :=
  (stripSuffix? p s).isSome

/-! ### Searching -/

/-- The parts of `s` before and after the first occurrence of `p`. -/
def cutAt? (p : Text) : Text → Option (Text × Text)
  | [] => if p = [] then some ([], []) else none
  | c :: s =>
    match stripPrefix? p (c :: s) with
    | some rest => some ([], rest)
    | none => (cutAt? p s).map fun (before, after) => (c :: before, after)

/-- Whether `p` occurs in `s`. -/
def contains (s p : Text) : Bool :=
  (cutAt? p s).isSome

/-- The parts of `s` before and after the first character `c`. -/
def cutAtChar? (c : Char) : Text → Option (Text × Text)
  | [] => none
  | d :: s =>
    if d = c then some ([], s)
    else (cutAtChar? c s).map fun (before, after) => (d :: before, after)

/-- The parts of `s` before and after the last character `c`. -/
def cutAtLast? (c : Char) (s : Text) : Option (Text × Text) :=
  (cutAtChar? c s.reverse).map fun (after, before) => (before.reverse, after.reverse)

/-! ### Lists of pieces -/

/-- The pieces of `s` between the characters that satisfy `sep`; there is always one. -/
def splitBy (sep : Char → Bool) : Text → List Text
  | [] => [[]]
  | c :: s =>
    if sep c then [] :: splitBy sep s
    else
      match splitBy sep s with
      | [] => [[c]]
      | piece :: pieces => (c :: piece) :: pieces

/-- The pieces of `s` between occurrences of the character `c`. -/
def splitOn (c : Char) (s : Text) : List Text :=
  splitBy (· == c) s

/-- A line without the carriage return that may stand before its line feed. -/
def dropCarriageReturn (line : Text) : Text :=
  (stripSuffix? ['\r'] line).getD line

/-- Gives the lines of a text that was cut at its line feeds: each piece but the last
was ended by one, and an empty last piece is no line. -/
def linesOfPieces : List Text → List Text
  | [] => []
  | [last] => if last = [] then [] else [last]
  | line :: rest => dropCarriageReturn line :: linesOfPieces rest

/-- The lines of a text, without their line ends. -/
def lines (s : Text) : List Text :=
  linesOfPieces (splitOn '\n' s)

/-- The texts one after the other with `sep` between neighbours. -/
def join (sep : Text) : List Text → Text
  | [] => []
  | [s] => s
  | s :: rest => s ++ sep ++ join sep rest

/-! ### Replacing -/

/-- Replaces occurrences of the non-empty pattern `p` by `new`, left to right; `skip`
counts the characters of a replaced occurrence that are still to be passed over. -/
def replaceFrom (p new : Text) : Nat → Text → Text
  | _, [] => []
  | skip + 1, _ :: s => replaceFrom p new skip s
  | 0, c :: s =>
    if startsWith (c :: s) p then new ++ replaceFrom p new (p.length - 1) s
    else c :: replaceFrom p new 0 s

/-- Replaces every occurrence of `p` by `new`, left to right and without overlaps. The
empty pattern occurs before every character and at the end. -/
def replaceAll (p new s : Text) : Text :=
  if p = [] then new ++ s.flatMap fun c => c :: new
  else replaceFrom p new 0 s

/-! ### Lengths -/

/-- A beginning that is cut off and the rest are as long as the text. -/
theorem length_of_stripPrefix? {p s rest : Text} (h : stripPrefix? p s = some rest) :
    s.length = p.length + rest.length := by
  induction p generalizing s with
  | nil => simp_all [stripPrefix?]
  | cons a p ih =>
    cases s with
    | nil => simp [stripPrefix?] at h
    | cons b s =>
      simp only [stripPrefix?] at h
      split at h
      · have := ih h
        simp only [List.length_cons]
        omega
      · cases h

/-- An end that is cut off and the rest are as long as the text. -/
theorem length_of_stripSuffix? {p s rest : Text} (h : stripSuffix? p s = some rest) :
    s.length = p.length + rest.length := by
  simp only [stripSuffix?, Option.map_eq_some_iff] at h
  obtain ⟨r, hr, rfl⟩ := h
  have := length_of_stripPrefix? hr
  simpa using this

/-- The two parts and what is cut out between them are as long as the text. -/
theorem length_of_cutAt? {p s before after : Text} (h : cutAt? p s = some (before, after)) :
    s.length = before.length + p.length + after.length := by
  induction s generalizing before with
  | nil =>
    simp only [cutAt?] at h
    split at h <;> simp_all
  | cons c s ih =>
    simp only [cutAt?] at h
    split at h
    · next rest hrest =>
      have := length_of_stripPrefix? hrest
      simp_all
    · obtain ⟨⟨b, a⟩, hb, heq⟩ := Option.map_eq_some_iff.1 h
      simp only [Prod.mk.injEq] at heq
      obtain ⟨rfl, rfl⟩ := heq
      have := ih hb
      simp only [List.length_cons]
      omega

/-- The two parts and the character between them are as long as the text. -/
theorem length_of_cutAtChar? {c : Char} {s before after : Text}
    (h : cutAtChar? c s = some (before, after)) :
    s.length = before.length + 1 + after.length := by
  induction s generalizing before with
  | nil => simp [cutAtChar?] at h
  | cons d s ih =>
    simp only [cutAtChar?] at h
    split at h
    · simp_all; omega
    · obtain ⟨⟨b, a⟩, hb, heq⟩ := Option.map_eq_some_iff.1 h
      simp only [Prod.mk.injEq] at heq
      obtain ⟨rfl, rfl⟩ := heq
      have := ih hb
      simp only [List.length_cons]
      omega

end Text

end Weaver
