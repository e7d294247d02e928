import Weaver.Jimple.Zone
import Weaver.Proofs.Jimple.Zones
import Weaver.Proofs.Text.Offsets

/-!
# Scanning at Byte Offsets

The searches in the text of a statement, as they run over bytes: a scanner with two flags and a
counter reports the offsets of the characters that stand outside literals and references, and the
text is cut at what it reports. A cut may be impossible and the counter may have nothing to count
down from, so that all searches here are partial.

The flags and the counter are never in a state that is no `Zone`, and what is reported are the ends
of beginnings of the text. So the scanner is **never stopped**, and each search finds what the one
that walks through zones finds.

## Main definitions

* `Scanner.next?`, `Scanner.scan?`: one character, and a whole text.
* `Text.topLevel?`, `Text.findTopLevel?`, `Text.splitTopLevel?`: searches outside.
* `Text.referenceEnd?`: the bracket that closes a reference.

## Main results

* `Scanner.next?_ofZone`, `Scanner.scan?_ofZone`: a step and a run.
* `Text.findTopLevel?_eq`, `Text.splitTopLevel?_eq`, `Text.referenceEnd?_of_none`,
  `Text.referenceEnd?_of_some`: **the searches are never stopped**.
-/

namespace Weaver

open Utf8

/-! ### The scanner -/

/-- What a scanner keeps of the text behind it. -/
structure Scanner where
  inString : Bool
  escaped : Bool
  /-- The number of open brackets. -/
  depth : Nat

namespace Scanner

/-- A scanner in front of a text. -/
def start : Scanner :=
  { inString := false, escaped := false, depth := 0 }

/-- Passes the character `c` with `following` behind it, and tells whether it is on the top
level. -/
def next? (r : Scanner) (c : Char) (following : Option Char) : Option (Bool × Scanner) :=
  if r.inString then
    if r.escaped then some (false, { r with escaped := false })
    else if c = '\\' then some (false, { r with escaped := true })
    else if c = '"' then some (false, { r with inString := false })
    else some (false, r)
  else if 0 < r.depth then
    if c = '<' then some (false, { r with depth := r.depth + 1 })
    else if c = '>' then (subtract? r.depth 1).map fun depth => (false, { r with depth })
    else some (false, r)
  else if c = '"' then some (false, { r with inString := true })
  else if c = '<' && Zone.opensReference following then some (false, { r with depth := 1 })
  else some (true, r)

/-- Passes all characters, and reports those on the top level with their offsets. -/
def scan? : Scanner → List (Nat × Char) → Option (List (Nat × Char))
  | _, [] => some []
  | r, (offset, c) :: rest => do
    let (top, r) ← r.next? c (rest.head?.map Prod.snd)
    let found ← scan? r rest
    return if top then (offset, c) :: found else found

/-- The scanner in a zone. -/
def ofZone : Zone → Scanner
  | .outside => { inString := false, escaped := false, depth := 0 }
  | .quoted escaped => { inString := true, escaped, depth := 0 }
  | .reference depth => { inString := false, escaped := false, depth := depth + 1 }

/-- **One step** goes from zone to zone. -/
theorem next?_ofZone (z : Zone) (c : Char) (following : Option Char) :
    (ofZone z).next? c following =
      some (z.leavesOutside c following, ofZone (z.after c following)) := by
  cases z with
  | outside =>
    by_cases hquote : c = '"'
    · simp [next?, ofZone, Zone.leavesOutside, Zone.after, hquote]
    · cases hopen : c = '<' && Zone.opensReference following with
      | true => simp [next?, ofZone, Zone.leavesOutside, Zone.after, hquote, hopen]
      | false => simp [next?, ofZone, Zone.leavesOutside, Zone.after, hquote, hopen]
  | quoted escaped =>
    cases escaped with
    | true => rfl
    | false =>
      by_cases hslash : c = '\\'
      · simp [next?, ofZone, Zone.leavesOutside, Zone.after, hslash]
      · by_cases hquote : c = '"'
        · simp [next?, ofZone, Zone.leavesOutside, Zone.after, hquote]
        · simp [next?, ofZone, Zone.leavesOutside, Zone.after, hslash, hquote]
  | reference depth =>
    by_cases hopen : c = '<'
    · simp [next?, ofZone, Zone.leavesOutside, Zone.after, hopen]
    · by_cases hclose : c = '>'
      · -- The counter is positive in a reference.
        subst hclose
        cases depth <;> rfl
      · simp [next?, ofZone, Zone.leavesOutside, Zone.after, hopen, hclose]

end Scanner

/-! ### Characters outside -/

namespace Text

/-- The characters of a text with their offsets, if it begins at `offset`. -/
def charIndices (offset : Nat) : Text → List (Nat × Char)
  | [] => []
  | c :: s => (offset, c) :: charIndices (offset + width c) s

/-- Those of them that stand outside, from the zone `z` on. -/
def outsideIndices (z : Zone) (offset : Nat) : Text → List (Nat × Char)
  | [] => []
  | c :: s =>
    let rest := outsideIndices (z.after c s.head?) (offset + width c) s
    if z.leavesOutside c s.head? then (offset, c) :: rest else rest

/-- The characters of a text on its top level with their offsets. -/
def topLevel? (s : Text) : Option (List (Nat × Char)) :=
  Scanner.start.scan? (charIndices 0 s)

/-- The first character at an offset is the first one of the text. -/
theorem head?_charIndices (offset : Nat) (s : Text) :
    (charIndices offset s).head?.map Prod.snd = s.head? := by
  cases s <;> rfl

/-- **A run** reports what stands outside. -/
theorem scan?_ofZone (z : Zone) (offset : Nat) (s : Text) :
    (Scanner.ofZone z).scan? (charIndices offset s) = some (outsideIndices z offset s) := by
  induction s generalizing z offset with
  | nil => rfl
  | cons c s ih =>
    rw [charIndices, Scanner.scan?, head?_charIndices, Scanner.next?_ofZone]
    simp only [Option.bind_eq_bind, Option.bind_some, ih]
    rfl

/-- The scanner reports the characters outside. -/
theorem topLevel?_eq (s : Text) : topLevel? s = some (outsideIndices .outside 0 s) :=
  scan?_ofZone .outside 0 s

/-- Nothing is reported exactly if no character stands outside. -/
theorem isEmpty_outsideIndices (z : Zone) (offset : Nat) (s : Text) :
    (outsideIndices z offset s).isEmpty = !hasOutside z s := by
  induction s generalizing z offset with
  | nil => rfl
  | cons c s ih =>
    rw [outsideIndices, hasOutside]
    cases z.leavesOutside c s.head? with
    | true => rfl
    | false => exact ih ..

/-! ### Searching -/

/-- The first of the offsets at which `p` occurs. -/
def firstAt? (p s : Text) : List Nat → Option (Option Nat)
  | [] => some none
  | offset :: rest => do
    let behind ← sliceFrom? offset s
    if startsWith behind p then return some offset else firstAt? p s rest

/-- The offset of the first occurrence of `p` that begins on the top level. -/
def findTopLevel? (p s : Text) : Option (Option Nat) := do
  let chars ← topLevel? s
  firstAt? p s (chars.map Prod.fst)

/-- **The first match is where the text is cut.** -/
theorem firstAt?_outsideIndices (p done s : Text) (z : Zone) :
    firstAt? p (done ++ s) ((outsideIndices z (length done) s).map Prod.fst) =
      some ((cutOutside? p z s).map fun found => length (done ++ found.1)) := by
  induction s generalizing done z with
  | nil => rfl
  | cons c s ih =>
    have hrest := ih (done ++ [c]) (z.after c s.head?)
    rw [length_concat, List.append_assoc, List.singleton_append] at hrest
    have hmap : (cutOutside? p (z.after c s.head?) s).map
          (fun found => length (done ++ [c] ++ found.1)) =
        ((cutOutside? p (z.after c s.head?) s).map fun found => (c :: found.1, found.2)).map
          fun found => length (done ++ found.1) := by
      rw [Option.map_map]
      refine congrArg (Option.map · _) (funext fun found => ?_)
      rw [List.append_assoc]
      rfl
    rw [hmap] at hrest
    rw [outsideIndices, cutOutside?]
    cases z.leavesOutside c s.head? with
    | false => exact hrest
    | true =>
      rw [if_pos rfl, if_pos rfl, List.map_cons, firstAt?, sliceFrom?_append, Option.bind_eq_bind,
        Option.bind_some, startsWith]
      cases stripPrefix? p (c :: s) with
      | none => exact hrest
      | some behind =>
        rw [Option.map_some, List.append_nil]
        rfl

/-- **The search** is never stopped, and finds the place where the text is cut outside. -/
theorem findTopLevel?_eq (p s : Text) :
    findTopLevel? p s = some ((cutOutside? p .outside s).map fun found => length found.1) := by
  rw [findTopLevel?, topLevel?_eq]
  exact firstAt?_outsideIndices p [] s .outside

/-! ### Splitting -/

/-- The pieces between the characters `sep` among those reported, from an offset on. -/
def piecesAt? (sep : Char) (s : Text) : Nat → List (Nat × Char) → Option (List Text)
  | start, [] => (sliceFrom? start s).map fun piece => [piece]
  | start, (offset, c) :: rest =>
    if c = sep then do
      let piece ← slice? start offset s
      let pieces ← piecesAt? sep s (offset + width c) rest
      return piece :: pieces
    else piecesAt? sep s start rest

/-- The pieces of a text between the characters `sep` on its top level. -/
def splitTopLevel? (sep : Char) (s : Text) : Option (List Text) := do
  let chars ← topLevel? s
  piecesAt? sep s 0 chars

/-- Nothing in front of the first piece changes nothing. -/
theorem modifyHead_nil_append (pieces : List Text) : pieces.modifyHead ([] ++ ·) = pieces := by
  cases pieces <;> rfl

/-- The characters behind the last cut belong to the first piece. -/
theorem piecesAt?_outsideIndices (sep : Char) (done run s : Text) (z : Zone) :
    piecesAt? sep (done ++ run ++ s) (length done) (outsideIndices z (length (done ++ run)) s) =
      some ((splitOutside sep z s).modifyHead (run ++ ·)) := by
  induction s generalizing done run z with
  | nil =>
    rw [outsideIndices, piecesAt?, List.append_assoc, sliceFrom?_append]
    rfl
  | cons c s ih =>
    have hsplit : done ++ run ++ c :: s = done ++ run ++ [c] ++ s := by simp
    have hkeep := ih done (run ++ [c]) (z.after c s.head?)
    obtain ⟨piece, rest, hpieces⟩ : ∃ piece rest,
        splitOutside sep (z.after c s.head?) s = piece :: rest :=
      List.exists_cons_of_ne_nil (splitOutside_ne_nil sep _ s)
    rw [← List.append_assoc, ← hsplit, length_concat, hpieces] at hkeep
    have hnext : (piece :: rest).modifyHead (run ++ [c] ++ ·) =
        ((c :: piece) :: rest).modifyHead (run ++ ·) := by simp
    rw [outsideIndices, splitOutside, hpieces]
    cases z.leavesOutside c s.head? with
    | false =>
      rw [Bool.false_and, if_neg Bool.false_ne_true, if_neg Bool.false_ne_true, hkeep]
      exact congrArg some hnext
    | true =>
      simp only [if_true, Bool.true_and, piecesAt?, beq_iff_eq]
      by_cases hc : c = sep
      · have hcut := ih (done ++ run ++ [c]) [] (z.after c s.head?)
        rw [List.append_nil, ← hsplit, length_concat, hpieces] at hcut
        rw [if_pos hc, if_pos hc, slice?_append, hcut, modifyHead_nil_append]
        exact congrArg (fun piece => some (piece :: _)) (List.append_nil run).symm
      · rw [if_neg hc, if_neg hc, hkeep]
        exact congrArg some hnext

/-- **Splitting** is never stopped, and gives the pieces between what stands outside. -/
theorem splitTopLevel?_eq (sep : Char) (s : Text) :
    splitTopLevel? sep s = some (splitOutside sep .outside s) := by
  have hpieces := piecesAt?_outsideIndices sep [] [] s .outside
  rw [splitTopLevel?, topLevel?_eq, Option.bind_eq_bind, Option.bind_some]
  exact hpieces.trans (congrArg some (modifyHead_nil_append _))

/-! ### References -/

/-- The offset of the bracket that closes the outermost of `depth` open ones. -/
def closeAt? : Nat → List (Nat × Char) → Option Nat
  | _, [] => none
  | depth, (offset, c) :: rest =>
    if c = '<' then closeAt? (depth + 1) rest
    else if c = '>' then
      match subtract? depth 1 with
      | none => none
      | some 0 => some offset
      | some depth => closeAt? depth rest
    else closeAt? depth rest

/-- The offset of the bracket that closes the reference at `start`, if one does. -/
def referenceEnd? (s : Text) (start : Nat) : Option (Option Nat) := do
  let behind ← sliceFrom? start s
  return (closeAt? 0 (charIndices 0 behind)).map (start + ·)

/-- **The closing bracket** is where the reference is cut off. -/
theorem closeAt?_charIndices (depth offset : Nat) (s : Text) :
    (closeAt? depth (charIndices offset s)).map (· + 1) =
      (cutClosed? depth s).map fun found => offset + length found.1 := by
  induction s generalizing depth offset with
  | nil => rfl
  | cons c s ih =>
    have hstep (d : Nat) : (cutClosed? d s).map (fun found => offset + width c + length found.1) =
        ((cutClosed? d s).map fun found => (c :: found.1, found.2)).map
          fun found => offset + length found.1 := by
      rw [Option.map_map]
      refine congrArg (Option.map · _) (funext fun found => ?_)
      rw [Function.comp_apply, length_cons, Nat.add_assoc]
    rw [charIndices, closeAt?, cutClosed?.eq_def]
    dsimp only
    by_cases hopen : c = '<'
    · rw [if_pos hopen, if_pos hopen, ih, hstep]
    · rw [if_neg hopen, if_neg hopen]
      by_cases hclose : c = '>'
      · rw [if_pos hclose, if_pos hclose]
        rcases depth with _ | _ | depth
        · rfl
        · subst hclose
          rfl
        · rw [← hstep, ← ih]
          rfl
      · rw [if_neg hclose, if_neg hclose, ih, hstep]

/-- **The closing bracket** is not found, if no reference begins at an offset. -/
theorem referenceEnd?_of_none (done : Text) {s : Text} (h : cutClosed? 0 s = none) :
    referenceEnd? (done ++ s) (length done) = some none := by
  have hclose := closeAt?_charIndices 0 0 s
  rw [h, Option.map_none, Option.map_eq_none_iff] at hclose
  rw [referenceEnd?, sliceFrom?_append, Option.bind_eq_bind, Option.bind_some, hclose]
  rfl

/-- **The closing bracket** is the last character of a reference that begins at an offset. -/
theorem referenceEnd?_of_some (done : Text) {s inner rest : Text}
    (h : cutClosed? 0 s = some (inner, rest)) :
    ∃ close, referenceEnd? (done ++ s) (length done) = some (some close) ∧
      close + 1 = length (done ++ inner) := by
  have hclose := closeAt?_charIndices 0 0 s
  rw [h, Option.map_some, Option.map_eq_some_iff] at hclose
  obtain ⟨close, hfound, hlength⟩ := hclose
  refine ⟨length done + close, ?_, ?_⟩
  · rw [referenceEnd?, sliceFrom?_append, Option.bind_eq_bind, Option.bind_some, hfound]
    rfl
  · rw [length_append, Nat.add_assoc, hlength, Nat.zero_add]

end Text

end Weaver
