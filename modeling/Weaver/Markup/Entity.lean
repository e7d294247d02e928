import Weaver.Markup.Piece
import Weaver.Text.Decimal

/-!
# Entities

An ampersand begins an entity, which a semicolon ends. An entity stands for a character,
by one of five names or by its number.

## Main definitions

* `Markup.resolve?`: a text with its entities resolved.
-/

namespace Weaver.Markup

/-- The characters that have names. -/
def entityNames : List (Text × Char) :=
  [("lt".toList, '<'), ("gt".toList, '>'), ("amp".toList, '&'), ("apos".toList, '\''),
    ("quot".toList, '"')]

/-- The value of a digit of a number with the base `base`. -/
def digit? (base : Nat) (c : Char) : Option Nat :=
  let value? :=
    if '0' ≤ c ∧ c ≤ '9' then some (c.toNat - '0'.toNat)
    else if 'a' ≤ c ∧ c ≤ 'f' then some (c.toNat - 'a'.toNat + 10)
    else if 'A' ≤ c ∧ c ≤ 'F' then some (c.toNat - 'A'.toNat + 10)
    else none
  value?.filter (· < base)

/-- The number that digits write; there has to be one. -/
def number? (base : Nat) (digits : Text) : Option Nat :=
  if digits.isEmpty then none
  else (digits.mapM (digit? base)).map fun values => values.foldl (fun n d => n * base + d) 0

/-- The character with a number, which is not zero. -/
def numbered? (n : Nat) : Option Char :=
  if n ≠ 0 ∧ n.isValidChar then some (Char.ofNat n) else none

/-- The character that an entity stands for. -/
def entity? : Text → Option Char
  | '#' :: 'x' :: digits => (number? 16 digits).bind numbered?
  | '#' :: digits => (number? 10 digits).bind numbered?
  | name => (entityNames.find? fun (n, _) => n == name).map Prod.snd

/-- A text with its entities resolved; `fuel` bounds their number. -/
def resolveFrom? : Nat → Text → Option Text
  | 0, _ => none
  | fuel + 1, s =>
    match Text.cutAtChar? '&' s with
    | none => some s
    | some (before, after) => do
      let (name, after) ← Text.cutAtChar? ';' after
      let c ← entity? name
      let rest ← resolveFrom? fuel after
      return before ++ c :: rest

/-- A text with its entities resolved; none of them may be unknown or without an end. -/
def resolve? (s : Text) : Option Text :=
  resolveFrom? (s.length + 1) s

end Weaver.Markup
