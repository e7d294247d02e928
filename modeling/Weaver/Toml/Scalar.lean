import Weaver.Text.Decimal
import Weaver.Toml.Value

/-!
# Scalars of TOML Documents

Strings of all four kinds, numbers, dates and times.

## Main definitions

* `TomlReader`: a reader of a part of a document.
* `TomlReader.string`, `TomlReader.number`, `TomlReader.datetime`.
-/

namespace Weaver

/-- A reader of a part of a document; the state is the text that is left. -/
abbrev TomlReader := StateT Text Option

namespace TomlReader

/-! ### Characters -/

/-- The next character. -/
def peek? : TomlReader (Option Char) :=
  return (← get).head?

/-- Takes the next character. -/
def next : TomlReader Char := do
  match ← get with
  | c :: s =>
    set s
    return c
  | [] => failure

/-- Takes a fixed text if it stands next. -/
def accept (s : String) : TomlReader Bool := do
  match Text.stripPrefix? s.toList (← get) with
  | some rest =>
    set rest
    return true
  | none => return false

/-- Takes a fixed text. -/
def expect (s : String) : TomlReader Unit := do
  if ← accept s then return () else failure

/-- Takes the characters that satisfy a condition. -/
def takeWhile (p : Char → Bool) : TomlReader Text := do
  let s ← get
  set (s.dropWhile p)
  return s.takeWhile p

/-- Passes over blanks and tabs. -/
def skipBlanks : TomlReader Unit := do
  let _ ← takeWhile fun c => c == ' ' || c == '\t'

/-- Takes a line end if one stands next. -/
def acceptLineEnd : TomlReader Bool := do
  if ← accept "\n" then return true else accept "\r\n"

/-- Whether a character may stand in strings and comments as it is. -/
def isPlain (c : Char) : Bool :=
  c == '\t' || (c.toNat ≥ 0x20 && c.toNat ≠ 0x7F)

/-- Takes the result of the first of two readers that does not fail. -/
def either {α : Type} (a b : TomlReader α) : TomlReader α :=
  fun s =>
    match a.run s with
    | some r => some r
    | none => b.run s

/-! ### Strings -/

/-- The value of a hexadecimal digit. -/
def hexDigit? (c : Char) : Option Nat :=
  if c.isDigit then some (c.toNat - '0'.toNat)
  else if 'a' ≤ c && c ≤ 'f' then some (c.toNat - 'a'.toNat + 10)
  else if 'A' ≤ c && c ≤ 'F' then some (c.toNat - 'A'.toNat + 10)
  else none

/-- Takes so many hexadecimal digits behind those that denote `n`. -/
def hexNumber : Nat → Nat → TomlReader Nat
  | 0, n => return n
  | digits + 1, n => do
    let d ← liftM (hexDigit? (← next))
    hexNumber digits (16 * n + d)

/-- Takes a character by its number. -/
def numberedChar (digits : Nat) : TomlReader Char := do
  let n ← hexNumber digits 0
  if n.isValidChar then return Char.ofNat n else failure

/-- Takes what follows the backslash of an escape. -/
def escape : TomlReader Char := do
  match ← next with
  | 'b' => return '\x08'
  | 't' => return '\t'
  | 'n' => return '\n'
  | 'f' => return '\x0c'
  | 'r' => return '\r'
  | '"' => return '"'
  | '\\' => return '\\'
  | 'u' => numberedChar 4
  | 'U' => numberedChar 8
  | _ => failure

/-- Takes the rest of a string between double quotes; `fuel` bounds its length. -/
def basicRest : Nat → TomlReader Text
  | 0 => failure
  | fuel + 1 => do
    match ← next with
    | '"' => return []
    | '\\' => return (← escape) :: (← basicRest fuel)
    | c => if isPlain c then return c :: (← basicRest fuel) else failure

/-- Takes the rest of a string between single quotes. -/
def literalRest : TomlReader Text := do
  let s ← takeWhile fun c => isPlain c && c != '\''
  expect "'"
  return s

/-- Takes the quotes that close a string of several lines. Up to two quotes before the last
three belong to the string. There is no result if the string goes on behind fewer than
three. -/
def closingQuotes? (quote : Char) : TomlReader (Option Text) := do
  let s ← get
  let run := (s.takeWhile (· == quote)).length
  if run < 3 then return none
  set (s.drop (min run 5))
  return some (List.replicate (min run 5 - 3) quote)

/-- Passes over white space and line ends behind a backslash at the end of a line. -/
def isSpread (c : Char) : Bool :=
  c == ' ' || c == '\t' || c == '\n' || c == '\r'

/-- Whether carriage returns stand before line feeds only. -/
def hasProperLineEnds : Text → Bool
  | [] => true
  | '\r' :: '\n' :: s => hasProperLineEnds s
  | '\r' :: _ => false
  | _ :: s => hasProperLineEnds s

/-- Passes over a line that a backslash continues: the rest of the line is blank, and blank
lines and blanks follow. -/
def continuation : TomlReader Unit := do
  let s ← get
  let gap := s.takeWhile isSpread
  if List.contains gap '\n' && hasProperLineEnds gap &&
      (Text.dropCarriageReturn (gap.takeWhile (· != '\n'))).all fun c => c == ' ' || c == '\t' then
    set (s.dropWhile isSpread)
  else failure

/-- Takes the rest of a string of several lines between double quotes; `fuel` bounds its
length. -/
def basicLines : Nat → TomlReader Text
  | 0 => failure
  | fuel + 1 => do
    match ← closingQuotes? '"' with
    | some quotes => return quotes
    | none =>
      if ← acceptLineEnd then return '\n' :: (← basicLines fuel)
      else
        match ← next with
        | '\\' =>
          match (← peek?).any isSpread with
          | true =>
            continuation
            basicLines fuel
          | false => return (← escape) :: (← basicLines fuel)
        | c => if isPlain c then return c :: (← basicLines fuel) else failure

/-- Takes the rest of a string of several lines between single quotes; `fuel` bounds its
length. -/
def literalLines : Nat → TomlReader Text
  | 0 => failure
  | fuel + 1 => do
    match ← closingQuotes? '\'' with
    | some quotes => return quotes
    | none =>
      if ← acceptLineEnd then return '\n' :: (← literalLines fuel)
      else
        let c ← next
        if isPlain c then return c :: (← literalLines fuel) else failure

/-- Takes a string on one line. -/
def lineString : TomlReader Text := do
  if ← accept "\"" then basicRest (← get).length.succ
  else
    expect "'"
    literalRest

/-- Takes a string of any kind. -/
def string : TomlReader Text := do
  if ← accept "\"\"\"" then
    let _ ← acceptLineEnd
    basicLines (← get).length.succ
  else if ← accept "'''" then
    let _ ← acceptLineEnd
    literalLines (← get).length.succ
  else lineString

/-! ### Numbers -/

/-- Takes digits, between which single low lines may stand. `fuel` bounds their number. -/
def digitsRest (isDigit : Char → Bool) : Nat → TomlReader Text
  | 0 => return []
  | fuel + 1 => do
    match ← get with
    | '_' :: c :: s =>
      if isDigit c then
        set s
        return c :: (← digitsRest isDigit fuel)
      else return []
    | c :: s =>
      if isDigit c then
        set s
        return c :: (← digitsRest isDigit fuel)
      else return []
    | [] => return []

/-- Takes at least one digit. -/
def digits (isDigit : Char → Bool) : TomlReader Text := do
  let c ← next
  if isDigit c then return c :: (← digitsRest isDigit (← get).length) else failure

/-- Takes a sign if one stands next. -/
def sign : TomlReader Text := do
  if ← accept "-" then return ['-']
  else if ← accept "+" then return ['+']
  else return []

/-- Takes decimal digits without superfluous zeros in front. -/
def wholeDigits : TomlReader Text := do
  if ← accept "0" then return ['0'] else digits Char.isDigit

/-- The digits of a number system and the words before them. -/
def radixes : List (String × Nat × (Char → Bool)) :=
  [("0x", 16, fun c => (hexDigit? c).isSome), ("0o", 8, fun c => '0' ≤ c && c ≤ '7'),
    ("0b", 2, fun c => c == '0' || c == '1')]

/-- The number that digits denote in a number system. -/
def valueIn (radix : Nat) (s : Text) : Nat :=
  s.foldl (fun n c => radix * n + (hexDigit? c).getD 0) 0

/-- Takes an integer in one of the other number systems. -/
def radixInteger : List (String × Nat × (Char → Bool)) → TomlReader Text
  | [] => failure
  | (mark, radix, isDigit) :: rest => do
    if ← accept mark then
      let s ← digits isDigit
      if valueIn radix s < 2 ^ 63 then return mark.toList ++ s else failure
    else radixInteger rest

/-- Takes a decimal integer, which fits a word of 64 bits. -/
def decimalInteger : TomlReader Text := do
  let s ← sign
  let d ← wholeDigits
  let n := natOfDigits d
  if n < 0x8000000000000000 ∨ (s = ['-'] ∧ n = 0x8000000000000000) then return s ++ d else failure

/-- Takes an exponent. -/
def exponent : TomlReader Text := do
  if (← accept "e") || (← accept "E") then
    let s ← sign
    return 'e' :: s ++ (← digits Char.isDigit)
  else failure

/-- Takes a fraction and the exponent that may follow. -/
def fraction : TomlReader Text := do
  expect "."
  let d ← digits Char.isDigit
  return '.' :: d ++ (← either exponent (pure []))

/-- Whether the decimal number of these digits and exponent is beyond all floating-point
numbers. -/
def isHuge (whole part : Text) : Bool :=
  let (frac, expo) := part.span (· != 'e')
  let e := (readInt? ((expo.drop 1).filter (· != '+'))).getD 0
  let mantissa := whole ++ frac.drop 1
  let value := natOfDigits mantissa
  let shift := e - (frac.drop 1).length
  -- the least number that is rounded to infinity
  let bound := 1 <<< 1024 - 1 <<< 970
  if value = 0 then false
  else if shift > 400 then true
  else if shift ≥ 0 then value * Nat.pow 10 shift.toNat ≥ bound
  else if -shift > mantissa.length then false
  else value ≥ bound * Nat.pow 10 (-shift).toNat

/-- Takes a floating-point number. Only on the positive side a number may be too large. -/
def floating : TomlReader Text := do
  let s ← sign
  if ← accept "inf" then return s ++ "inf".toList
  else if ← accept "nan" then return s ++ "nan".toList
  else
    let whole ← wholeDigits
    let part ← either fraction exponent
    if s ≠ ['-'] && isHuge whole part then failure
    return s ++ whole ++ part

/-- Takes a number. -/
def number : TomlReader Toml :=
  return .number (← either floating (either (radixInteger radixes) decimalInteger))

/-! ### Dates and times -/

/-- Takes a number of so many digits within bounds. -/
def field (count low high : Nat) : TomlReader Nat := do
  let s ← get
  let d := s.take count
  if d.length = count ∧ isDigits d ∧ low ≤ natOfDigits d ∧ natOfDigits d ≤ high then
    set (s.drop count)
    return natOfDigits d
  else failure

/-- The number of days of a month. -/
def daysOf (year month : Nat) : Nat :=
  let isLeap := (year % 4 = 0 ∧ year % 100 ≠ 0) ∨ year % 400 = 0
  if month = 2 then if isLeap then 29 else 28
  else if month = 4 ∨ month = 6 ∨ month = 9 ∨ month = 11 then 30
  else 31

/-- Takes a date. -/
def date : TomlReader Unit := do
  let year ← field 4 0 9999
  expect "-"
  let month ← field 2 1 12
  expect "-"
  let _ ← field 2 1 (daysOf year month)

/-- Takes a time of a day. -/
def time : TomlReader Unit := do
  let _ ← field 2 0 23
  expect ":"
  let _ ← field 2 0 59
  expect ":"
  let _ ← field 2 0 60
  if ← accept "." then
    if (← takeWhile Char.isDigit).isEmpty then failure

/-- Takes an offset from universal time. -/
def offset : TomlReader Unit := do
  if (← accept "Z") || (← accept "z") then return ()
  else if (← sign).isEmpty then failure
  else
    let _ ← field 2 0 23
    expect ":"
    let _ ← field 2 0 59

/-- Takes the time behind a date, if there is one. -/
def timeBehindDate : TomlReader Unit := do
  let separator ← next
  if separator = 'T' ∨ separator = 't' ∨ separator = ' ' then
    time
    either offset (pure ())
  else failure

/-- Takes a date, a time or both. -/
def datetime : TomlReader Toml := do
  let s ← get
  either (do date; either timeBehindDate (pure ())) time
  return .datetime (s.take (s.length - (← get).length))

end TomlReader

end Weaver
