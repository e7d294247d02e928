import Weaver.Text.Alphanumeric
import Weaver.Text.Basic

/-!
# Zones of Verbatim Code

In the text of a statement, string literals and member references `<a.B: ...>` are opaque:
operators, separators and names of locals are looked for outside them only. A `Zone`
says where a position stands, and every function here walks a text from zone to zone.

## Main definitions

* `Zone.after`: the zone behind a character.
* `Text.cutOutside?`, `Text.splitOutside`: cutting at what stands outside.
* `Text.renameWord`: replacing a word outside.
-/

namespace Weaver

/-- Whether a character may stand in a word of the code. Its letters and digits are those of
Unicode 15.0; in another version, runs with characters beyond the ASCII block may end elsewhere. -/
def isWordChar (c : Char) : Bool :=
  isAlphanumeric c || c == '_' || c == '$'

/-- Where a position of a statement's text stands. -/
inductive Zone where
  /-- Outside string literals and member references. -/
  | outside
  /-- In a string literal, perhaps right behind a backslash. -/
  | quoted (escaped : Bool)
  /-- In a member reference, below so many further ones. -/
  | reference (depth : Nat)
deriving DecidableEq, Repr

namespace Zone

/-- Whether a `<` before the character `next` opens a member reference and is not a
comparison or a shift. -/
def opensReference : Option Char → Bool
  | none => false
  | some next => isWordChar next && !next.isDigit

/-- The zone behind the character `c`, which `next` follows. -/
def after (z : Zone) (c : Char) (next : Option Char) : Zone :=
  match z with
  | outside =>
    if c = '"' then quoted false
    else if c = '<' && opensReference next then reference 0
    else outside
  | quoted true => quoted false
  | quoted false =>
    if c = '\\' then quoted true
    else if c = '"' then outside
    else quoted false
  | reference depth =>
    if c = '<' then reference (depth + 1)
    else if c = '>' then
      match depth with
      | 0 => outside
      | depth + 1 => reference depth
    else reference depth

/-- Whether the character `c` itself stands outside: the quote or bracket that opens a
literal or a reference does not. -/
def leavesOutside (z : Zone) (c : Char) (next : Option Char) : Bool :=
  z == outside && z.after c next == outside

end Zone

namespace Text

/-- Whether some character of the text stands outside. -/
def hasOutside : Zone → Text → Bool
  | _, [] => false
  | z, c :: s => z.leavesOutside c s.head? || hasOutside (z.after c s.head?) s

/-- The parts before and after the first occurrence of `p` that begins outside. -/
def cutOutside? (p : Text) : Zone → Text → Option (Text × Text)
  | _, [] => none
  | z, c :: s =>
    match if z.leavesOutside c s.head? then stripPrefix? p (c :: s) else none with
    | some rest => some ([], rest)
    | none =>
      (cutOutside? p (z.after c s.head?) s).map fun (before, after) => (c :: before, after)

/-- The pieces between the characters `sep` that stand outside. -/
def splitOutside (sep : Char) : Zone → Text → List Text
  | _, [] => [[]]
  | z, c :: s =>
    let pieces := splitOutside sep (z.after c s.head?) s
    if z.leavesOutside c s.head? && c == sep then [] :: pieces
    else
      match pieces with
      | [] => [[c]]
      | piece :: rest => (c :: piece) :: rest

/-- Replaces the word `old` by `new` wherever it stands outside as a maximal run of word
characters; `run` is the run that is being read. -/
def renameFrom (old new : Text) : Zone → Text → Text → Text
  | _, run, [] => if run = old then new else run
  | .outside, run, c :: s =>
    if isWordChar c then renameFrom old new .outside (run ++ [c]) s
    else
      (if run = old then new else run) ++
        c :: renameFrom old new (Zone.after .outside c s.head?) [] s
  | z, run, c :: s => c :: renameFrom old new (z.after c s.head?) run s

/-- Replaces the word `old` by `new` outside string literals and member references. -/
def renameWord (old new s : Text) : Text :=
  renameFrom old new .outside [] s

/-- The member reference that the text begins with, up to the bracket that closes it, and
the rest; `depth` brackets are open already. -/
def cutClosed? : Nat → Text → Option (Text × Text)
  | _, [] => none
  | depth, c :: s =>
    if c = '<' then (cutClosed? (depth + 1) s).map fun (inner, rest) => (c :: inner, rest)
    else if c = '>' then
      match depth with
      | 0 => none
      | 1 => some ([c], s)
      | depth + 2 =>
        (cutClosed? (depth + 1) s).map fun (inner, rest) => (c :: inner, rest)
    else (cutClosed? depth s).map fun (inner, rest) => (c :: inner, rest)

/-! ### Renaming -/

/-- In literals and references, renaming copies. -/
theorem renameFrom_of_ne_outside {z : Zone} (hz : z ≠ .outside) (old new run : Text) (c : Char)
    (s : Text) :
    renameFrom old new z run (c :: s) = c :: renameFrom old new (z.after c s.head?) run s := by
  cases z with
  | outside => exact absurd rfl hz
  | quoted _ => rfl
  | reference _ => rfl

/-! ### Lengths -/

/-- A reference that is cut off and the rest are as long as the text. -/
theorem length_of_cutClosed? {depth : Nat} {s inner rest : Text}
    (h : cutClosed? depth s = some (inner, rest)) : s.length = inner.length + rest.length := by
  fun_induction cutClosed? depth s generalizing inner <;>
    simp only [Option.map_eq_some_iff, Prod.mk.injEq, Option.some.injEq, Prod.exists, reduceCtorEq]
      at h
  case case4 => obtain ⟨rfl, rfl⟩ := h; simp; omega
  all_goals
    obtain ⟨i, r, hi, rfl, rfl⟩ := h
    rename_i ih
    have := ih hi
    simp only [List.length_cons]
    omega

/-- No piece is longer than the text. -/
theorem length_le_of_mem_splitOutside {sep : Char} {z : Zone} {s piece : Text}
    (h : piece ∈ splitOutside sep z s) : piece.length ≤ s.length := by
  induction s generalizing z piece with
  | nil => simp_all [splitOutside]
  | cons c s ih =>
    simp only [splitOutside] at h
    split at h
    · rcases List.mem_cons.1 h with rfl | h
      · simp
      · exact Nat.le_succ_of_le (ih h)
    · split at h
      · simp_all
      · next first rest heq =>
        rcases List.mem_cons.1 h with rfl | h
        · have := ih (heq ▸ List.mem_cons_self : first ∈ splitOutside sep _ s)
          simpa using this
        · exact Nat.le_succ_of_le (ih (heq ▸ List.mem_cons_of_mem _ h))

end Text

end Weaver
