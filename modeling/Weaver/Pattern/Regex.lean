import Weaver.Pattern.Syntax
import Weaver.Text.CaseFolding
import Weaver.Text.Property

/-!
# The Meaning of Patterns

A pattern without flags, spellings and names: sets of characters, assertions, choices,
repetitions and captures.

## Main definitions

* `Regex`, `Look`.
* `ClassSyntax.set?`: the characters of a class.
* `PatternSyntax.meaning?`: the meaning of a pattern.
-/

namespace Weaver

/-! ### Regular expressions -/

/-- An assertion about a place in the text. -/
inductive Look where
  | textStart
  | textEnd
  | lineStart
  | lineEnd
  | crlfLineStart
  | crlfLineEnd
  /-- An assertion about words of ASCII letters or of the letters of all scripts. -/
  | word (kind : WordAssertion) (unicode : Bool)
deriving DecidableEq, Repr

/-- A regular expression with captures; of two ways to match, the one that comes first
counts. -/
inductive Regex where
  | empty
  | chars (set : CharSet)
  | look (l : Look)
  | seq (a b : Regex)
  | alt (a b : Regex)
  | repetition (least : Nat) (most : Option Nat) (greedy : Bool) (inner : Regex)
  | capture (index : Nat) (inner : Regex)

/-! ### Flags -/

/-- The flags at a place of a pattern. -/
structure PatternFlags where
  ignoreCase : Bool
  multiLine : Bool
  dotMatchesLineFeed : Bool
  swapGreed : Bool
  unicode : Bool
  crlf : Bool

namespace PatternFlags

/-- The flags at the beginning of a pattern. -/
def initial : PatternFlags :=
  { ignoreCase := false, multiLine := false, dotMatchesLineFeed := false, swapGreed := false
    unicode := true, crlf := false }

/-- Switches one flag. Blanks mean nothing any more. -/
def change (f : PatternFlags) (c : PatternFlag × Bool) : PatternFlags :=
  match c with
  | (.ignoreCase, on) => { f with ignoreCase := on }
  | (.multiLine, on) => { f with multiLine := on }
  | (.dotMatchesLineFeed, on) => { f with dotMatchesLineFeed := on }
  | (.swapGreed, on) => { f with swapGreed := on }
  | (.unicode, on) => { f with unicode := on }
  | (.crlf, on) => { f with crlf := on }
  | (.ignoreBlanks, _) => f

/-- Switches flags. -/
def changeAll (f : PatternFlags) (cs : FlagChanges) : PatternFlags :=
  cs.foldl change f

end PatternFlags

/-! ### Classes -/

/-- The ASCII letters, digits and the low line. -/
def asciiWordSet : CharSet :=
  [(0x30, 0x39), (0x41, 0x5A), (0x5F, 0x5F), (0x61, 0x7A)]

/-- The characters of a class with a letter of its own. -/
def LetterClass.set (unicode : Bool) : LetterClass → CharSet
  | digit => if unicode then decimalSet else [(0x30, 0x39)]
  | space => if unicode then blankSet else [(0x9, 0xD), (0x20, 0x20)]
  | word => if unicode then wordSet else asciiWordSet

namespace ClassSyntax

/-- A set with the characters of ASCII letters of the other case as well. -/
def closeUnderAsciiCase (a : CharSet) : CharSet :=
  let shifted (low high : Nat) (move : Nat → Nat) : List (Nat × Nat) :=
    (a.inter [(low, high)]).map fun (l, h) => (move l, move h)
  a.union (.ofRanges (shifted 0x41 0x5A (· + 0x20) ++ shifted 0x61 0x7A (· - 0x20)))

/-- The set without regard to case, if the flags say so. -/
def fold (f : PatternFlags) (a : CharSet) : CharSet :=
  if !f.ignoreCase then a else if f.unicode then a.closeUnderCase else closeUnderAsciiCase a

/-- The set of all characters outside `a`. Without the letters of all scripts it would hold
parts of characters. -/
def negate? (f : PatternFlags) (a : CharSet) : Option CharSet :=
  if f.unicode then some a.compl else none

/-- The set, or what lies outside. -/
def negateIf? (f : PatternFlags) (negated : Bool) (a : CharSet) : Option CharSet :=
  if negated then negate? f a else some a

/-- A set that may be used where only ASCII counts. -/
def admit? (f : PatternFlags) (a : CharSet) : Option CharSet :=
  if f.unicode || a.isAscii then some a else none

/-- Combines two sets. -/
def combine (op : ClassOperator) (a b : CharSet) : CharSet :=
  match op with
  | .intersection => a.inter b
  | .difference => a.diff b
  | .symmetricDifference => a.symmDiff b

mutual

/-- The characters of a class, if the class is allowed under the flags. -/
def set? (f : PatternFlags) : ClassSyntax → Option CharSet
  | .range low high => admit? f [(low.toNat, high.toNat)]
  | .letter cls negated => negateIf? f negated (cls.set f.unicode)
  | .ascii set negated => negateIf? f negated (fold f set)
  | .property name value negated =>
    if f.unicode then (propertySet? name value).bind fun a => negateIf? f negated (fold f a)
    else none
  | .bracketed negated inner => (set? f inner).bind fun a => negateIf? f negated (fold f a)
  | .union items => unionOf? f items
  | .binary op lhs rhs => do
    let a ← set? f lhs
    let b ← set? f rhs
    return combine op (fold f a) (fold f b)

/-- The characters of a list of classes together. -/
def unionOf? (f : PatternFlags) : List ClassSyntax → Option CharSet
  | [] => some []
  | c :: cs => do
    let a ← set? f c
    let b ← unionOf? f cs
    return a.union b

end

end ClassSyntax

/-! ### Patterns -/

/-- The assertion that is meant under the flags. -/
def AssertionSyntax.look (f : PatternFlags) : AssertionSyntax → Look
  | startLine =>
    if !f.multiLine then .textStart else if f.crlf then .crlfLineStart else .lineStart
  | endLine => if !f.multiLine then .textEnd else if f.crlf then .crlfLineEnd else .lineEnd
  | startText => .textStart
  | endText => .textEnd
  | word kind => .word kind f.unicode

namespace PatternSyntax

/-- The characters that a dot matches. -/
def dotSet? (f : PatternFlags) : Option CharSet :=
  if !f.unicode then none
  else if f.dotMatchesLineFeed then some .full
  else if f.crlf then some (CharSet.compl [(0xA, 0xA), (0xD, 0xD)])
  else some (CharSet.compl [(0xA, 0xA)])

/-- The set of one written character. -/
def literalSet? (f : PatternFlags) (c : Char) (isByte : Bool) : Option CharSet :=
  if !f.unicode && isByte && c.toNat ≥ 0x80 then none
  else some (ClassSyntax.fold f (.single c))

mutual

/-- The meaning of a pattern under flags, and the flags behind it. -/
def meaningUnder? (f : PatternFlags) : PatternSyntax → Option (Regex × PatternFlags)
  | .empty => some (.empty, f)
  | .flags changes => some (.empty, f.changeAll changes)
  | .literal c isByte => (literalSet? f c isByte).map fun a => (.chars a, f)
  | .dot => (dotSet? f).map fun a => (.chars a, f)
  | .assertion kind => some (.look (kind.look f), f)
  | .cls c => (c.set? f).map fun a => (.chars a, f)
  | .repetition least most greedy inner => do
    let (r, g) ← meaningUnder? f inner
    return (.repetition least most (greedy != g.swapGreed) r, g)
  | .group (.capture index) inner => do
    let (r, _) ← meaningUnder? f inner
    return (.capture index r, f)
  | .group (.scoped changes) inner => do
    let (r, _) ← meaningUnder? (f.changeAll changes) inner
    return (r, f)
  | .concat items => concatUnder? f items
  | .alternation items => alternationUnder? f items

/-- The meaning of items one behind the other. -/
def concatUnder? (f : PatternFlags) : List PatternSyntax → Option (Regex × PatternFlags)
  | [] => some (.empty, f)
  | p :: ps => do
    let (a, f) ← meaningUnder? f p
    let (b, f) ← concatUnder? f ps
    return (.seq a b, f)

/-- The meaning of a choice. -/
def alternationUnder? (f : PatternFlags) : List PatternSyntax → Option (Regex × PatternFlags)
  | [] => some (.chars [], f)
  | [p] => meaningUnder? f p
  | p :: ps => do
    let (a, f) ← meaningUnder? f p
    let (b, f) ← alternationUnder? f ps
    return (.alt a b, f)

end

/-- The meaning of a whole pattern. -/
def meaning? (p : PatternSyntax) : Option Regex :=
  (meaningUnder? .initial p).map Prod.fst

end PatternSyntax

end Weaver
