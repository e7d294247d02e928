import Weaver.Pattern.Cursor
import Weaver.Text.Decimal

/-!
# Escapes in Patterns

What a backslash in a pattern introduces: a character, a class or an assertion.

## Main definitions

* `PatternReader.escape`: read an escape.
-/

namespace Weaver.PatternReader

/-! ### Characters by number -/

/-- Whether a character is a hexadecimal digit. -/
def isHexDigit (c : Char) : Bool :=
  c.isDigit || ('a' ≤ c && c ≤ 'f') || ('A' ≤ c && c ≤ 'F')

/-- The value of a hexadecimal digit. -/
def hexDigitValue (c : Char) : Nat :=
  if c.isDigit then c.toNat - '0'.toNat
  else if 'a' ≤ c then c.toNat - 'a'.toNat + 10
  else c.toNat - 'A'.toNat + 10

/-- The number that hexadecimal digits denote. -/
def hexValue (digits : Text) : Nat :=
  digits.foldl (fun n c => 16 * n + hexDigitValue c) 0

/-- The character with a number, if there is one. -/
def charOfNumber? (n : Nat) : Option Char :=
  if n.isValidChar then some (Char.ofNat n) else none

/-- Reads so many more hexadecimal digits; the next character is the first one. -/
def hexDigits : Nat → PatternReader Text
  | 0 => return []
  | n + 1 => do
    let c ← next
    if isHexDigit c then
      advance
      return c :: (← hexDigits n)
    else failure

/-- Reads the hexadecimal digits up to a closing brace; `fuel` bounds their number. -/
def hexBraced : Nat → PatternReader Text
  | 0 => failure
  | fuel + 1 => do
    let c ← advanceToNext
    if c = '}' then return []
    else if isHexDigit c then return c :: (← hexBraced fuel)
    else failure

/-- Reads a character by its number: the next character is the letter that tells how many
digits there are without braces. -/
def hexEscape : PatternReader PatternSyntax := do
  let letter ← next
  let first ← advanceToNext
  if first = '{' then
    let digits ← hexBraced (← rest).length
    advance
    if digits.isEmpty then failure
    return .literal (← liftM (charOfNumber? (hexValue digits))) false
  else
    let digits ← hexDigits (if letter = 'x' then 2 else if letter = 'u' then 4 else 8)
    return .literal (← liftM (charOfNumber? (hexValue digits))) (letter = 'x')

/-! ### Classes by name -/

/-- Reads the characters up to a closing brace; `fuel` bounds their number. -/
def nameBraced : Nat → PatternReader Text
  | 0 => failure
  | fuel + 1 => do
    let c ← advanceToNext
    if c = '}' then return [] else return c :: (← nameBraced fuel)

/-- The class that the text between the braces names. -/
def propertyClass (name : Text) (negated : Bool) : ClassSyntax :=
  match Text.cutAt? "!=".toList name with
  | some (name, value) => .property name (some value) (!negated)
  | none =>
    match Text.cutAtChar? ':' name with
    | some (name, value) => .property name (some value) negated
    | none =>
      match Text.cutAtChar? '=' name with
      | some (name, value) => .property name (some value) negated
      | none => .property name none negated

/-- Reads a class by the name of a property: the next character is the letter that tells
whether it is negated. -/
def propertyEscape : PatternReader PatternSyntax := do
  let negated := (← next) == 'P'
  let first ← advanceToNext
  if first = '{' then
    let name ← nameBraced (← rest).length
    bump
    return .cls (propertyClass name negated)
  else if first = '\\' then failure
  else
    advance
    return .cls (.property [first] none negated)

/-! ### Word boundaries -/

/-- Whether a character may stand in the name of a word boundary. -/
def isBoundaryChar (c : Char) : Bool :=
  c.isAlpha || c == '-'

/-- Reads the name of a word boundary; `fuel` bounds its length. -/
def boundaryName : Nat → PatternReader Text
  | 0 => return []
  | fuel + 1 => do
    match ← peek? with
    | some c =>
      if isBoundaryChar c then
        advance
        return c :: (← boundaryName fuel)
      else return []
    | none => return []

/-- The word boundary of that name. -/
def boundaryOfName? (name : Text) : Option WordAssertion :=
  if name = "start".toList then some .start
  else if name = "end".toList then some .stop
  else if name = "start-half".toList then some .startHalf
  else if name = "end-half".toList then some .stopHalf
  else none

/-- Reads what follows the letter of a word boundary: a name between braces may. Braces
that begin otherwise are left for a repetition. -/
def boundaryEscape : PatternReader WordAssertion := do
  let behind ← rest
  match behind with
  | '{' :: _ =>
    let c ← advanceToNext
    if isBoundaryChar c then
      let name ← boundaryName behind.length
      if (← next) = '}' then
        bump
        liftM (boundaryOfName? name)
      else failure
    else
      setRest behind
      return .boundary
  | _ => return .boundary

/-! ### All escapes -/

/-- The characters that have a meaning somewhere in a pattern. -/
def metaCharacters : Text :=
  "\\.+*?()|[]\x7b\x7d^$#&-~".toList

/-- Whether a backslash before the character stands for the character itself. -/
def isPlainEscape (c : Char) : Bool :=
  List.contains metaCharacters c ||
    (c.toNat < 0x80 && !c.isAlphanum && c != '<' && c != '>')

/-- The character or assertion that a letter behind a backslash stands for. -/
def letterEscape? : Char → Option PatternSyntax
  | 'a' => some (.literal '\x07' false)
  | 'f' => some (.literal '\x0c' false)
  | 't' => some (.literal '\t' false)
  | 'n' => some (.literal '\n' false)
  | 'r' => some (.literal '\r' false)
  | 'v' => some (.literal '\x0b' false)
  | 'A' => some (.assertion .startText)
  | 'z' => some (.assertion .endText)
  | 'B' => some (.assertion (.word .notBoundary))
  | '<' => some (.assertion (.word .start))
  | '>' => some (.assertion (.word .stop))
  | 'd' => some (.cls (.letter .digit false))
  | 'D' => some (.cls (.letter .digit true))
  | 's' => some (.cls (.letter .space false))
  | 'S' => some (.cls (.letter .space true))
  | 'w' => some (.cls (.letter .word false))
  | 'W' => some (.cls (.letter .word true))
  | _ => none

/-- Reads an escape; the next character is the backslash. -/
def escape : PatternReader PatternSyntax := do
  bump
  let c ← next
  if c = 'x' ∨ c = 'u' ∨ c = 'U' then hexEscape
  else if c = 'p' ∨ c = 'P' then propertyEscape
  else
    bump
    if isPlainEscape c then return .literal c false
    else if c = 'b' then return .assertion (.word (← boundaryEscape))
    else liftM (letterEscape? c)

end Weaver.PatternReader
