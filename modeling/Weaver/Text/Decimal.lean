import Weaver.Text.Basic

/-!
# Decimal Numbers

Natural numbers and integers in decimal notation: no sign but a minus, no leading zeros
when written, leading zeros allowed when read.

## Main results

* `natOfDigits_natText`: reading undoes writing.
-/

namespace Weaver

/-- The decimal digits of a natural number. -/
def natText (n : Nat) : Text :=
  Nat.toDigits 10 n

/-- The decimal form of an integer. -/
def intText : Int → Text
  | .ofNat n => natText n
  | .negSucc n => '-' :: natText (n + 1)

/-- The number that a list of decimal digits denotes. -/
def natOfDigits (digits : Text) : Nat :=
  Nat.ofDigitChars 10 digits 0

/-- Whether a text is a non-empty list of decimal digits. -/
def isDigits (s : Text) : Bool :=
  !s.isEmpty && s.all Char.isDigit

/-- Reads decimal digits with an optional minus before them. -/
def readInt? : Text → Option Int
  | '-' :: digits => if isDigits digits then some (-(natOfDigits digits : Int)) else none
  | digits => if isDigits digits then some (natOfDigits digits : Int) else none

/-- The number of negative values of a two's-complement word of `bits` bits. -/
def negativeCount (bits : Nat) : Nat :=
  Nat.pow 2 (bits - 1)

/-- Whether an integer fits a two's-complement word of `bits` bits. -/
def fitsSigned (bits : Nat) (n : Int) : Bool :=
  -(negativeCount bits : Int) ≤ n && n < (negativeCount bits : Int)

/-- **Numbers are read back** from their decimal digits. -/
theorem natOfDigits_natText (n : Nat) : natOfDigits (natText n) = n :=
  Nat.ofDigitChars_toDigits (by decide) (by decide)

/-- A number is written with digits only. -/
theorem isDigits_natText (n : Nat) : isDigits (natText n) = true := by
  have h₁ : natText n ≠ [] := Nat.toDigits_ne_nil
  have h₂ : ∀ c ∈ natText n, c.isDigit = true := fun c hc =>
    Nat.isDigit_of_mem_toDigits (by decide) (by decide) hc
  simpa [isDigits, h₁] using h₂

end Weaver
