import Weaver.Proofs.Text.Cutting
import Weaver.Text.Utf8

/-!
# Byte Offsets

A program that keeps its texts as bytes cuts them at byte offsets, and it is stopped when such an
offset is out of range or inside a character. Here these cuts are partial: `none` stands for a
program that was stopped. That a program is never stopped is then a theorem about it, and each such
theorem comes down to one fact: the number of bytes of a beginning of a text is an offset at which
the text can be cut, and **no other number is**.

## Main definitions

* `Text.cutAtByte?`: the parts of a text around an offset.
* `Text.sliceFrom?`, `Text.sliceTo?`, `Text.slice?`: what is behind, before and between offsets.
* `Text.find?`, `Text.findLast?`: the offset of an occurrence.
* `splitAt?`, `dropAt?`, `subtract?`: the same caution about lists and counters.

## Main results

* `Text.cutAtByte?_eq_some_iff`: where a text can be cut.
* `Text.sliceFrom?_append`, `Text.sliceTo?_append`, `Text.slice?_append`.
-/

namespace Weaver

/-! ### Lengths -/

namespace Utf8

/-- The number of bytes of a character. -/
def width (c : Char) : Nat :=
  (encodeChar c).length

/-- Every character has at least one byte. -/
theorem width_pos (c : Char) : 0 < width c := by
  rw [width, encodeChar]
  dsimp only
  split
  · exact Nat.one_pos
  · split
    · exact Nat.two_pos
    · split
      · exact Nat.succ_pos 2
      · exact Nat.succ_pos 3

theorem length_nil : length [] = 0 :=
  rfl

/-- The bytes of a character and of the text behind it. -/
theorem length_cons (c : Char) (s : Text) : length (c :: s) = width c + length s := by
  rw [length, encode, List.flatMap_cons, List.length_append]
  rfl

/-- The bytes of two texts add up. -/
theorem length_append (s t : Text) : length (s ++ t) = length s + length t := by
  rw [length, encode, List.flatMap_append, List.length_append]
  rfl

/-- The bytes of a text and of the character behind it. -/
theorem length_concat (s : Text) (c : Char) : length (s ++ [c]) = length s + width c := by
  rw [length_append, length_cons, length_nil, Nat.add_zero]

end Utf8

/-! ### Counters and lists -/

/-- The difference of two counters; the program is stopped if there is none. -/
def subtract? (m n : Nat) : Option Nat :=
  if n ≤ m then some (m - n) else none

/-- What has been added can be subtracted. -/
theorem subtract?_add (m n : Nat) : subtract? (m + n) n = some m := by
  rw [subtract?, if_pos (Nat.le_add_left n m), Nat.add_sub_cancel]

/-- The elements of a list before an index and from it on; the program is stopped if there are
fewer. -/
def splitAt? {α : Type} (i : Nat) (xs : List α) : Option (List α × List α) :=
  if i ≤ xs.length then some (xs.splitAt i) else none

/-- The elements of a list from an index on. -/
def dropAt? {α : Type} (i : Nat) (xs : List α) : Option (List α) :=
  (splitAt? i xs).map Prod.snd

/-- A list can be split up to its length. -/
theorem splitAt?_of_le {α : Type} {i : Nat} {xs : List α} (h : i ≤ xs.length) :
    splitAt? i xs = some (xs.take i, xs.drop i) := by
  rw [splitAt?, if_pos h, List.splitAt_eq]

/-- Behind a list that is put in front is the list. -/
theorem dropAt?_append {α : Type} (before xs : List α) :
    dropAt? before.length (before ++ xs) = some xs := by
  have hle : before.length ≤ (before ++ xs).length := by
    rw [List.length_append]
    exact Nat.le_add_right ..
  rw [dropAt?, splitAt?_of_le hle, List.drop_left]
  rfl

/-! ### Cutting at an offset -/

namespace Text

open Utf8

/-- The parts of a text before and behind a byte offset; the program is stopped if the offset is
out of range or inside a character. -/
def cutAtByte? : Nat → Text → Option (Text × Text)
  | 0, s => some ([], s)
  | _ + 1, [] => none
  | n + 1, c :: s =>
    if width c ≤ n + 1 then
      (cutAtByte? (n + 1 - width c) s).map fun (before, after) => (c :: before, after)
    else none

/-- **Where a text can be cut**: behind the bytes of one of its beginnings, and nowhere else. -/
theorem cutAtByte?_eq_some_iff {n : Nat} {s a b : Text} :
    cutAtByte? n s = some (a, b) ↔ s = a ++ b ∧ n = length a := by
  induction s generalizing n a with
  | nil =>
    cases n with
    | zero =>
      rw [cutAtByte?, Option.some.injEq, Prod.mk.injEq]
      constructor
      · rintro ⟨rfl, rfl⟩
        exact ⟨rfl, rfl⟩
      · rintro ⟨happend, -⟩
        obtain ⟨rfl, rfl⟩ := List.append_eq_nil_iff.1 happend.symm
        exact ⟨rfl, rfl⟩
    | succ n =>
      refine ⟨(fun h => by cases h), ?_⟩
      rintro ⟨happend, hn⟩
      obtain ⟨rfl, rfl⟩ := List.append_eq_nil_iff.1 happend.symm
      cases hn
  | cons c s ih =>
    -- Every character has bytes, so that only the empty beginning has none.
    have hpos := width_pos c
    cases n with
    | zero =>
      rw [cutAtByte?, Option.some.injEq, Prod.mk.injEq]
      constructor
      · rintro ⟨rfl, rfl⟩
        exact ⟨rfl, rfl⟩
      · rintro ⟨happend, hn⟩
        cases a with
        | nil => exact ⟨rfl, happend⟩
        | cons d a =>
          have hd := width_pos d
          rw [length_cons] at hn
          omega
    | succ n =>
      rw [cutAtByte?]
      constructor
      · intro h
        split at h
        · next hle =>
          obtain ⟨⟨a', b'⟩, hcut, heq⟩ := Option.map_eq_some_iff.1 h
          obtain ⟨rfl, rfl⟩ := Prod.mk.inj heq
          obtain ⟨rfl, hn⟩ := ih.1 hcut
          refine ⟨rfl, ?_⟩
          rw [length_cons]
          omega
        · cases h
      · rintro ⟨happend, hn⟩
        cases a with
        | nil => cases hn
        | cons d a =>
          obtain ⟨rfl, rfl⟩ := List.cons.inj happend
          rw [length_cons] at hn
          rw [if_pos (by omega), ih.2 ⟨rfl, by omega⟩]
          rfl

/-- Inside a character there is no place to cut. -/
example : cutAtByte? 1 "é".toList = none := by decide

/-- The text behind a byte offset. -/
def sliceFrom? (i : Nat) (s : Text) : Option Text :=
  (cutAtByte? i s).map Prod.snd

/-- The text before a byte offset. -/
def sliceTo? (i : Nat) (s : Text) : Option Text :=
  (cutAtByte? i s).map Prod.fst

/-- The text between two byte offsets. -/
def slice? (i j : Nat) (s : Text) : Option Text :=
  (sliceTo? j s).bind (sliceFrom? i)

/-- **Behind a beginning** of the text is the rest. -/
theorem sliceFrom?_append (a b : Text) : sliceFrom? (length a) (a ++ b) = some b := by
  rw [sliceFrom?, cutAtByte?_eq_some_iff.2 ⟨rfl, rfl⟩]
  rfl

/-- **Before the rest** of the text is the beginning. -/
theorem sliceTo?_append (a b : Text) : sliceTo? (length a) (a ++ b) = some a := by
  rw [sliceTo?, cutAtByte?_eq_some_iff.2 ⟨rfl, rfl⟩]
  rfl

/-- **Between two beginnings** is what the longer one has more. -/
theorem slice?_append (a b c : Text) :
    slice? (length a) (length (a ++ b)) (a ++ b ++ c) = some b := by
  rw [slice?, sliceTo?_append, Option.bind_some, sliceFrom?_append]

/-! ### Searching -/

/-- The offset of the first occurrence of `p`. -/
def find? (p s : Text) : Option Nat :=
  (cutAt? p s).map fun found => length found.1

/-- The offset of the first character `c`. -/
def findChar? (c : Char) (s : Text) : Option Nat :=
  (cutAtChar? c s).map fun found => length found.1

/-- The offset of the last character `c`. -/
def findLast? (c : Char) (s : Text) : Option Nat :=
  (cutAtLast? c s).map fun found => length found.1

end Text

end Weaver
