import Weaver.Text.CharSet

/-!
# The Syntax of Patterns

Patterns as they are written: literals, classes, assertions, repetitions, groups and flags.

## Main definitions

* `ClassSyntax`: what stands between brackets.
* `PatternSyntax`: a pattern.
* `PatternSyntax.depth`: how deep a pattern is nested.
-/

namespace Weaver

/-! ### Flags -/

/-- A flag, switched by a letter. -/
inductive PatternFlag where
  | ignoreCase
  | multiLine
  | dotMatchesLineFeed
  | swapGreed
  | unicode
  /-- Lines may end in a carriage return and a line feed. -/
  | crlf
  | ignoreBlanks
deriving DecidableEq, Repr

/-- The letter of a flag. -/
def PatternFlag.ofLetter? : Char → Option PatternFlag
  | 'i' => some ignoreCase
  | 'm' => some multiLine
  | 's' => some dotMatchesLineFeed
  | 'U' => some swapGreed
  | 'u' => some unicode
  | 'R' => some crlf
  | 'x' => some ignoreBlanks
  | _ => none

/-- Flags that are switched on or off. -/
abbrev FlagChanges := List (PatternFlag × Bool)

/-! ### Character classes -/

/-- A class with a letter of its own. -/
inductive LetterClass where
  | digit
  | space
  | word
deriving DecidableEq, Repr

/-- How two classes are combined. -/
inductive ClassOperator where
  | intersection
  | difference
  | symmetricDifference
deriving DecidableEq, Repr

/-- A class of characters as it is written. -/
inductive ClassSyntax where
  | range (low high : Char)
  | letter (cls : LetterClass) (negated : Bool)
  /-- The characters of an ASCII class such as `[:alpha:]`. -/
  | ascii (set : CharSet) (negated : Bool)
  | property (name : Text) (value : Option Text) (negated : Bool)
  | bracketed (negated : Bool) (inner : ClassSyntax)
  | union (items : List ClassSyntax)
  | binary (op : ClassOperator) (lhs rhs : ClassSyntax)

/-! ### Patterns -/

/-- The places around words. -/
inductive WordAssertion where
  | boundary
  | notBoundary
  | start
  | stop
  | startHalf
  | stopHalf
deriving DecidableEq, Repr

/-- An assertion about a place in the text. -/
inductive AssertionSyntax where
  | startLine
  | endLine
  | startText
  | endText
  | word (kind : WordAssertion)
deriving DecidableEq, Repr

/-- What a group is for. -/
inductive GroupSyntax where
  | capture (index : Nat)
  | scoped (changes : FlagChanges)

/-- A pattern as it is written. -/
inductive PatternSyntax where
  | empty
  /-- Flags for the rest of the group. -/
  | flags (changes : FlagChanges)
  /-- A character; `isByte` tells that it is written as two hexadecimal digits. -/
  | literal (c : Char) (isByte : Bool)
  | dot
  | assertion (kind : AssertionSyntax)
  | cls (c : ClassSyntax)
  | repetition (least : Nat) (most : Option Nat) (greedy : Bool) (inner : PatternSyntax)
  | group (kind : GroupSyntax) (inner : PatternSyntax)
  | concat (items : List PatternSyntax)
  | alternation (items : List PatternSyntax)

/-! ### Nesting -/

mutual

/-- The number of levels of a class. -/
def ClassSyntax.depth : ClassSyntax → Nat
  | .range .. | .letter .. | .ascii .. | .property .. => 0
  | .bracketed _ inner => inner.depth + 1
  | .union items => ClassSyntax.depths items + 1
  | .binary _ lhs rhs => max lhs.depth rhs.depth + 1

/-- The greatest number of levels in a list of classes. -/
def ClassSyntax.depths : List ClassSyntax → Nat
  | [] => 0
  | c :: cs => max c.depth (ClassSyntax.depths cs)

end

mutual

/-- The number of levels of a pattern. -/
def PatternSyntax.depth : PatternSyntax → Nat
  | .empty | .flags _ | .literal .. | .dot | .assertion _ => 0
  | .cls c => c.depth
  | .repetition _ _ _ inner => inner.depth + 1
  | .group _ inner => inner.depth + 1
  | .concat items => PatternSyntax.depths items + 1
  | .alternation items => PatternSyntax.depths items + 1

/-- The greatest number of levels in a list of patterns. -/
def PatternSyntax.depths : List PatternSyntax → Nat
  | [] => 0
  | p :: ps => max p.depth (PatternSyntax.depths ps)

end

/-- The number of levels that a pattern may have. -/
def maxPatternDepth : Nat :=
  250

end Weaver
