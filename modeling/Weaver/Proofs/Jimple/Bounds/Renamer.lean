import Weaver.Proofs.Jimple.Bounds.Scanner
import Weaver.Proofs.Jimple.Renaming.Marking

/-!
# Renaming Character by Character

A renaming of verbatim code, as it runs over the characters of a text: it collects the word that it
is reading and writes it, exchanged or not, in front of the first character that does not belong to
it. To tell what is a literal or a reference it has two flags and a counter of its own, and it asks
for word characters before it asks for quotes and brackets.

Yet a renaming and a scan are in the same state in front of every character, **whatever state they
start from**: what one of them takes for a literal or a reference, so does the other, and either
both are stopped or neither is.

## Main definitions

* `Renamer.next?`, `Renamer.pass?`: one character, and a text.
* `Text.renameTopLevel?`: renaming a whole text.

## Main results

* `Renamer.next?_scanner`, `Renamer.pass?_scanner`: a renaming and a scan **keep step**.
* `Text.renameTopLevel?_eq`: a renaming is never stopped, and writes what the one that walks through
  zones writes.
-/

namespace Weaver

/-! ### The renaming -/

/-- What a renaming keeps of the text behind it. -/
structure Renamer where
  inString : Bool
  escaped : Bool
  /-- The number of open brackets. -/
  depth : Nat
  /-- The word that is being read. -/
  run : Text
  written : Text

namespace Renamer

/-- A renaming in front of a text. -/
def start : Renamer :=
  { inString := false, escaped := false, depth := 0, run := [], written := [] }

/-- Writes the word that was read, and `new` for `old`. -/
def flush (old new : Text) (m : Renamer) : Renamer :=
  { m with run := [], written := m.written ++ renameName old new m.run }

/-- Writes a character. -/
def write (c : Char) (m : Renamer) : Renamer :=
  { m with written := m.written ++ [c] }

/-- Passes the character `c` with `following` behind it. -/
def next? (old new : Text) (m : Renamer) (c : Char) (following : Option Char) : Option Renamer :=
  if m.inString then
    let m := m.write c
    if m.escaped then some { m with escaped := false }
    else if c = '\\' then some { m with escaped := true }
    else if c = '"' then some { m with inString := false }
    else some m
  else if 0 < m.depth then
    let m := m.write c
    if c = '<' then some { m with depth := m.depth + 1 }
    else if c = '>' then (subtract? m.depth 1).map fun depth => { m with depth }
    else some m
  else if isWordChar c then some { m with run := m.run ++ [c] }
  else
    let m := m.flush old new
    let m :=
      if c = '"' then { m with inString := true }
      else if c = '<' && Zone.opensReference following then { m with depth := 1 }
      else m
    some (m.write c)

/-- Passes a text with `next` behind it. -/
def pass? (old new : Text) : Renamer → Text → Option Char → Option Renamer
  | m, [], _ => some m
  | m, c :: s, next => do
    let m ← m.next? old new c (s.head?.or next)
    pass? old new m s next

/-- What a renaming keeps of literals and references. -/
def scanner (m : Renamer) : Scanner :=
  { inString := m.inString, escaped := m.escaped, depth := m.depth }

end Renamer

/-- Replaces the word `old` by `new` on the top level of a text. -/
def Text.renameTopLevel? (old new s : Text) : Option Text :=
  (Renamer.start.pass? old new s none).map fun m => (m.flush old new).written

/-- A scan passes a text with `next` behind it. -/
def Scanner.pass? : Scanner → Text → Option Char → Option Scanner
  | r, [], _ => some r
  | r, c :: s, next => do
    let (_, r) ← r.next? c (s.head?.or next)
    pass? r s next

namespace Renamer

variable {old new : Text}

/-! ### Keeping step with a scan -/

/-- **One step** of both, from any state. -/
theorem next?_scanner (old new : Text) (m : Renamer) (c : Char) (following : Option Char) :
    (m.next? old new c following).map scanner = (m.scanner.next? c following).map Prod.snd := by
  obtain ⟨inString, escaped, depth, run, written⟩ := m
  cases inString with
  | true =>
    cases escaped with
    | true => rfl
    | false =>
      by_cases hslash : c = '\\'
      · simp [next?, Scanner.next?, scanner, write, hslash]
      · by_cases hquote : c = '"' <;>
          simp [next?, Scanner.next?, scanner, write, hslash, hquote]
  | false =>
    by_cases hdepth : 0 < depth
    · by_cases hopen : c = '<'
      · simp [next?, Scanner.next?, scanner, write, hdepth, hopen]
      · by_cases hclose : c = '>'
        · simp [next?, Scanner.next?, scanner, write, hdepth, hclose, Function.comp_def]
        · simp [next?, Scanner.next?, scanner, write, hdepth, hopen, hclose]
    · cases hc : isWordChar c with
      | true =>
        -- The scan has not asked for words, but no quote or bracket is a word character.
        have hquote : c ≠ '"' := ne_of_isWordChar hc rfl
        have hopen : c ≠ '<' := ne_of_isWordChar hc rfl
        simp [next?, Scanner.next?, scanner, hdepth, hc, hquote, hopen]
      | false =>
        by_cases hquote : c = '"'
        · subst hquote
          simp [next?, Scanner.next?, scanner, write, flush, hdepth, hc]
        · cases hopen : c = '<' && Zone.opensReference following <;>
            simp [next?, Scanner.next?, scanner, write, flush, hdepth, hc, hquote, hopen]

/-- **A renaming and a scan keep step** on every text. -/
theorem pass?_scanner (m : Renamer) (s : Text) (next : Option Char) :
    (m.pass? old new s next).map scanner = m.scanner.pass? s next := by
  induction s generalizing m with
  | nil => rfl
  | cons c s ih =>
    have hstep := next?_scanner old new m c (s.head?.or next)
    rw [pass?, Scanner.pass?, Option.bind_eq_bind, Option.bind_eq_bind, Option.map_bind]
    cases hm : m.next? old new c (s.head?.or next) with
    | none =>
      rw [hm, Option.map_none, eq_comm, Option.map_eq_none_iff] at hstep
      rw [hstep]
      rfl
    | some m' =>
      rw [hm, Option.map_some, eq_comm, Option.map_eq_some_iff] at hstep
      obtain ⟨⟨top, r⟩, hr, rfl⟩ := hstep
      rw [hr]
      exact ih m'

/-! ### Renaming from zone to zone -/

/-- The renaming in a zone. -/
def ofZone (z : Zone) (run written : Text) : Renamer :=
  let r := Scanner.ofZone z
  { inString := r.inString, escaped := r.escaped, depth := r.depth, run, written }

/-- In literals and references, a character is copied. -/
theorem next?_ofZone {z : Zone} (hz : z ≠ .outside) (run written : Text) (c : Char)
    (following : Option Char) : (ofZone z run written).next? old new c following =
      some (ofZone (z.after c following) run (written ++ [c])) := by
  cases z with
  | outside => exact absurd rfl hz
  | quoted escaped =>
    cases escaped with
    | true => rfl
    | false =>
      by_cases hslash : c = '\\'
      · simp [next?, ofZone, Scanner.ofZone, write, Zone.after, hslash]
      · by_cases hquote : c = '"' <;>
          simp [next?, ofZone, Scanner.ofZone, write, Zone.after, hslash, hquote]
  | reference depth =>
    by_cases hopen : c = '<'
    · simp [next?, ofZone, Scanner.ofZone, write, Zone.after, hopen]
    · by_cases hclose : c = '>'
      · -- The counter is positive in a reference.
        subst hclose
        cases depth <;> rfl
      · simp [next?, ofZone, Scanner.ofZone, write, Zone.after, hopen, hclose]

/-- Outside, a character of a word is collected, and any other one ends the word. -/
theorem next?_outside (run written : Text) (c : Char) (following : Option Char) :
    (ofZone .outside run written).next? old new c following =
      some (if isWordChar c then ofZone .outside (run ++ [c]) written
        else ofZone (Zone.after .outside c following) []
          (written ++ renameName old new run ++ [c])) := by
  cases hc : isWordChar c with
  | true => simp [next?, ofZone, Scanner.ofZone, hc]
  | false =>
    by_cases hquote : c = '"'
    · subst hquote
      simp [next?, ofZone, Scanner.ofZone, write, flush, Zone.after, hc]
    · cases hopen : c = '<' && Zone.opensReference following <;>
        simp [next?, ofZone, Scanner.ofZone, write, flush, Zone.after, hc, hquote, hopen]

/-- **A run** writes what renaming from zone to zone writes, behind what was written before. -/
theorem pass?_ofZone (z : Zone) (run written s : Text) :
    ((ofZone z run written).pass? old new s none).map (fun m => (m.flush old new).written) =
      some (written ++ Text.renameFrom old new z run s) := by
  induction s generalizing z run written with
  | nil =>
    rw [Text.renameFrom]
    rfl
  | cons c s ih =>
    rw [pass?, Option.or_none, Option.bind_eq_bind]
    by_cases hz : z = .outside
    · subst hz
      rw [next?_outside, Option.bind_some, Text.renameFrom]
      split
      · exact ih ..
      · rw [ih, List.append_assoc, List.append_assoc]
        rfl
    · rw [next?_ofZone hz, Option.bind_some, ih, Text.renameFrom_of_ne_outside hz,
        List.append_assoc]
      rfl

end Renamer

/-- **A renaming is never stopped.** -/
theorem Text.renameTopLevel?_eq (old new s : Text) :
    renameTopLevel? old new s = some (renameWord old new s) :=
  Renamer.pass?_ofZone .outside [] [] s

end Weaver
