import Weaver.Text.Basic

/-!
# Sets of Characters

A set of characters is a list of inclusive ranges of code points, in increasing order and
with gaps between neighbours.

## Main definitions

* `CharSet.ofRanges`: the set of some ranges in any order.
* `CharSet.union`, `CharSet.inter`, `CharSet.diff`, `CharSet.compl`: set algebra.
* `CharSet.contains`.
-/

namespace Weaver

/-- Inclusive ranges of code points in increasing order. -/
abbrev CharSet := List (Nat × Nat)

namespace CharSet

/-- The last code point. -/
def maxPoint : Nat :=
  0x10FFFF

/-- Joins ranges that touch or overlap; they come in the order of their first points. -/
def mergeFrom (low high : Nat) : List (Nat × Nat) → CharSet
  | [] => [(low, high)]
  | (l, h) :: rest =>
    if l ≤ high + 1 then mergeFrom low (max high h) rest else (low, high) :: mergeFrom l h rest

/-- The set of the points in some ranges. -/
def ofRanges (ranges : List (Nat × Nat)) : CharSet :=
  match ranges.mergeSort fun a b => a.1 ≤ b.1 with
  | [] => []
  | (low, high) :: rest => mergeFrom low high rest

/-- The set with one character. -/
def single (c : Char) : CharSet :=
  [(c.toNat, c.toNat)]

/-- The set of all characters. -/
def full : CharSet :=
  [(0, maxPoint)]

/-- Whether a character is in the set. -/
def contains : CharSet → Char → Bool
  | [], _ => false
  | (low, high) :: rest, c =>
    if c.toNat < low then false else if c.toNat ≤ high then true else contains rest c

/-- The points in either set. -/
def union (a b : CharSet) : CharSet :=
  if a.isEmpty then b else if b.isEmpty then a else ofRanges (a ++ b)

/-- The points from `start` on that lie in no range. -/
def complFrom (start : Nat) : CharSet → CharSet
  | [] => if start ≤ maxPoint then [(start, maxPoint)] else []
  | (low, high) :: rest =>
    if start < low then (start, low - 1) :: complFrom (high + 1) rest
    else complFrom (high + 1) rest

/-- The points outside the set. -/
def compl (a : CharSet) : CharSet :=
  complFrom 0 a

/-- The points in both sets. -/
def inter (a b : CharSet) : CharSet :=
  compl (union (compl a) (compl b))

/-- The points of the first set outside the second. -/
def diff (a b : CharSet) : CharSet :=
  inter a (compl b)

/-- The points in exactly one of the sets. -/
def symmDiff (a b : CharSet) : CharSet :=
  union (diff a b) (diff b a)

/-- Whether all points lie in the ASCII block. -/
def isAscii (a : CharSet) : Bool :=
  List.all a fun (_, high) => high < 0x80

end CharSet

end Weaver
