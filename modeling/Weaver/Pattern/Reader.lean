import Weaver.Pattern.Bracket
import Weaver.Text.Property

/-!
# Reading Patterns

A pattern is read from left to right with a stack of open groups. Each group holds the
alternatives that are complete and the items of the one that is being read.

## Main definitions

* `OpenGroup`: what has been read of a group.
* `PatternReader.step`: read one item, operator or parenthesis.
* `PatternSyntax.read?`: read a whole pattern.
-/

namespace Weaver

/-! ### Open groups -/

/-- A group whose closing parenthesis is still to come. -/
structure OpenGroup where
  kind : GroupSyntax
  /-- The complete alternatives, the last one first. -/
  alternatives : List PatternSyntax
  /-- The items of the alternative that is being read, the last one first. -/
  items : List PatternSyntax
  /-- Whether blanks are ignored around the group. -/
  ignoreBlanksAround : Bool

namespace OpenGroup

/-- The whole pattern as a group. -/
def whole : OpenGroup :=
  { kind := .scoped [], alternatives := [], items := [], ignoreBlanksAround := false }

/-- The alternative that is being read. -/
def alternative (g : OpenGroup) : PatternSyntax :=
  match g.items with
  | [] => .empty
  | [item] => item
  | items => .concat items.reverse

/-- Everything that has been read of the group. -/
def value (g : OpenGroup) : PatternSyntax :=
  match g.alternatives with
  | [] => g.alternative
  | alternatives => .alternation (alternatives.reverse ++ [g.alternative])

/-- Adds an item. -/
def push (g : OpenGroup) (item : PatternSyntax) : OpenGroup :=
  { g with items := item :: g.items }

/-- Goes on to the next alternative. -/
def branch (g : OpenGroup) : OpenGroup :=
  { g with alternatives := g.alternative :: g.alternatives, items := [] }

end OpenGroup

namespace PatternReader

/-! ### Repetitions -/

/-- The text behind white space. -/
def afterBlanks (s : Text) : Text :=
  s.dropWhile isBlank

/-- Reads the decimal digits of a count, between which blanks may be ignored; `fuel` bounds
their number. -/
def countDigits : Nat → PatternReader Text
  | 0 => return []
  | fuel + 1 => do
    match ← peek? with
    | some c =>
      if c.isDigit then
        advance
        return c :: (← countDigits fuel)
      else return []
    | none => return []

/-- Passes over white space and what does not count behind it; `fuel` bounds its length. -/
def skipWhite : Nat → PatternReader Unit
  | 0 => return ()
  | fuel + 1 => do
    match ← peek? with
    | some c =>
      if isBlank c then
        advance
        skipWhite fuel
    | none => return ()

/-- The largest count of a repetition. -/
def maxCount : Nat :=
  0xFFFFFFFF

/-- Reads a count with white space around it; there may be none. -/
def count? : PatternReader (Option Nat) := do
  setRest (afterBlanks (← rest))
  let size := (← rest).length
  let digits ← countDigits size
  skipWhite size
  if digits.isEmpty then return none
  let n := natOfDigits digits
  if n ≤ maxCount then return some n else failure

/-- Reads the counts between braces behind a comma: the lower one comes in. -/
def upperCount (low : Nat) : PatternReader (Nat × Option Nat) := do
  let c ← advanceToNext
  if c = '}' then return (low, none)
  else
    let high ← liftM (← count?)
    if low ≤ high then return (low, some high) else failure

/-- Reads counts between braces up to the closing brace; the next character is the opening
one. -/
def bounds : PatternReader (Nat × Option Nat) := do
  let _ ← advanceToNext
  let low ← count?
  let c ← next
  let low ← liftM low
  if c = ',' then upperCount low else return (low, some low)

/-- Whether an item can be repeated. -/
def isRepeatable : PatternSyntax → Bool
  | .empty | .flags _ => false
  | _ => true

/-- Puts a repetition around the last item. -/
def repeatLast (g : OpenGroup) (least : Nat) (most : Option Nat) (greedy : Bool) :
    PatternReader OpenGroup :=
  match g.items with
  | item :: items =>
    if isRepeatable item then
      return { g with items := .repetition least most greedy item :: items }
    else failure
  | [] => failure

/-- Reads a repetition sign of one character. -/
def repetition (g : OpenGroup) (least : Nat) (most : Option Nat) : PatternReader OpenGroup := do
  bump
  let lazy ← accept "?"
  repeatLast g least most (!lazy)

/-- Reads a repetition with counts. -/
def countedRepetition (g : OpenGroup) : PatternReader OpenGroup := do
  let (least, most) ← bounds
  if (← next) = '}' then
    advance
    let lazy ← accept "?"
    repeatLast g least most (!lazy)
  else failure

/-! ### Groups -/

/-- Whether a character may stand in the name of a group, in front or behind. -/
def isGroupNameChar (isFirst : Bool) (c : Char) : Bool :=
  if isFirst then c == '_' || alphabeticSet.contains c
  else c == '_' || c == '.' || c == '[' || c == ']' || isAlphanumeric c

/-- Reads the name of a group up to the closing angle bracket. -/
def groupName : PatternReader Text := do
  match Text.cutAtChar? '>' (← rest) with
  | some (c :: name, tail) =>
    if isGroupNameChar true c && name.all (isGroupNameChar false) then
      setRest tail
      return c :: name
    else failure
  | _ => failure

/-- The number of the next group that captures. -/
def newCapture : PatternReader Nat := do
  let c ← get
  set { c with captures := c.captures + 1 }
  return c.captures + 1

/-- Remembers the name of a group, which no other group may have. -/
def nameCapture (name : Text) (index : Nat) : PatternReader Unit := do
  let c ← get
  if c.names.any fun (n, _) => n == name then failure
  set { c with names := c.names ++ [(name, index)] }

/-- The flags that have been read: the changes, whether a hyphen has been met, and whether
it is the last character so far. -/
structure FlagsRead where
  changes : FlagChanges
  negated : Bool
  dangling : Bool

/-- Reads flags up to a colon or a closing parenthesis; `fuel` bounds their number. -/
def flagsFrom : Nat → FlagsRead → PatternReader FlagsRead
  | 0, _ => failure
  | fuel + 1, f => do
    let c ← next
    if c = ':' ∨ c = ')' then
      if f.dangling then failure
      return f
    else
      bump
      if c = '-' then
        if f.negated then failure
        flagsFrom fuel { f with negated := true, dangling := true }
      else
        let flag ← liftM (PatternFlag.ofLetter? c)
        if f.changes.any fun (g, _) => g == flag then failure
        flagsFrom fuel { f with changes := f.changes ++ [(flag, !f.negated)], dangling := false }

/-- The new state of a flag, if some changes tell it. -/
def flagState? (flag : PatternFlag) (changes : FlagChanges) : Option Bool :=
  (changes.find? fun (g, _) => g == flag).map Prod.snd

/-- Whether a text begins with a sign that looks around. -/
def looksAround (s : Text) : Bool :=
  ["?=", "?!", "?<=", "?<!"].any fun sign => Text.startsWith s sign.toList

/-- Opens a group around which `outer` are open. -/
def openGroup (kind : GroupSyntax) (changes : FlagChanges) (outer : List OpenGroup) :
    PatternReader (List OpenGroup) := do
  let c ← get
  set { c with ignoreBlanks := (flagState? .ignoreBlanks changes).getD c.ignoreBlanks }
  return { OpenGroup.whole with kind, ignoreBlanksAround := c.ignoreBlanks } :: outer

/-- Reads flags behind a question mark: for a group, or for the rest of the one that is
open. -/
def flagGroup (g : OpenGroup) (outer : List OpenGroup) : PatternReader (List OpenGroup) := do
  let f ← flagsFrom (← rest).length { changes := [], negated := false, dangling := false }
  let c ← next
  bump
  if c = ')' then
    if f.changes.isEmpty && !f.negated then failure
    modify fun c =>
      { c with ignoreBlanks := (flagState? .ignoreBlanks f.changes).getD c.ignoreBlanks }
    return g.push (.flags f.changes) :: outer
  else openGroup (.scoped f.changes) f.changes (g :: outer)

/-- Reads what follows an opening parenthesis. -/
def parenthesis (g : OpenGroup) (outer : List OpenGroup) : PatternReader (List OpenGroup) := do
  advance
  if looksAround (← rest) then failure
  let named ← do
    if ← accept "?P<" then pure true else accept "?<"
  if named then
    let index ← newCapture
    nameCapture (← groupName) index
    openGroup (.capture index) [] (g :: outer)
  else if ← accept "?" then flagGroup g outer
  else openGroup (.capture (← newCapture)) [] (g :: outer)

/-- Closes the innermost group. -/
def closeGroup (g : OpenGroup) (outer : List OpenGroup) : PatternReader (List OpenGroup) := do
  match outer with
  | [] => failure
  | around :: outer =>
    bump
    modify fun c => { c with ignoreBlanks := g.ignoreBlanksAround }
    return around.push (.group g.kind g.value) :: outer

/-! ### All items -/

/-- Reads one character or escape that stands for itself or for an assertion. -/
def primitive : PatternReader PatternSyntax := do
  let c ← next
  if c = '\\' then escape
  else
    bump
    match c with
    | '.' => return .dot
    | '^' => return .assertion .startLine
    | '$' => return .assertion .endLine
    | c => return .literal c false

/-- Reads what begins with the character `c`; the groups are open, the innermost first. -/
def step (c : Char) (g : OpenGroup) (outer : List OpenGroup) :
    PatternReader (List OpenGroup) := do
  match c with
  | '(' => parenthesis g outer
  | ')' => closeGroup g outer
  | '|' =>
    bump
    return g.branch :: outer
  | '[' => return g.push (.cls (← bracket)) :: outer
  | '?' => return (← repetition g 0 (some 1)) :: outer
  | '*' => return (← repetition g 0 none) :: outer
  | '+' => return (← repetition g 1 none) :: outer
  | '{' => return (← countedRepetition g) :: outer
  | _ => return g.push (← primitive) :: outer

/-- Reads to the end of the pattern; `fuel` bounds the number of steps. -/
def pattern : Nat → List OpenGroup → PatternReader PatternSyntax
  | 0, _ => failure
  | fuel + 1, groups => do
    skip
    match ← peek?, groups with
    | some c, g :: outer => pattern fuel (← step c g outer)
    | none, [g] => return g.value
    | _, _ => failure

end PatternReader

/-- Reads a pattern: its syntax, the number of groups that capture, and their names. Every
step takes at least one character. -/
def PatternSyntax.read? (s : Text) : Option (PatternSyntax × Cursor) := do
  let start : Cursor := { rest := s, ignoreBlanks := false, captures := 0, names := [] }
  let (p, c) ← (PatternReader.pattern (s.length + 1) [.whole]).run start
  if p.depth ≤ maxPatternDepth then return (p, c) else none

end Weaver
