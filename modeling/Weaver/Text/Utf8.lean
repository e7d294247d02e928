import Weaver.Text.Basic

/-!
# UTF-8

Bytes as text. Where bytes are no text, the longest piece that could have begun a
character is one unit of damage.

## Main definitions

* `Utf8.pieces`: the characters and damaged places of some bytes.
* `Utf8.encode`: the bytes of a text.
* `Utf8.decode?`: bytes without damage.
* `Utf8.length`: the number of bytes of a text.
* `Utf8.decodeLossy`: damaged places become replacement characters.
-/

namespace Weaver.Utf8

/-- Bytes. -/
abbrev Bytes := List UInt8

/-- The payload of a byte inside a character. -/
def payload (b : UInt8) : Nat :=
  b.toNat % 0x40

/-- Whether a byte may continue a character. -/
def isContinuation (b : UInt8) : Bool :=
  0x80 ≤ b && b ≤ 0xBF

/-- How a first byte begins a character: its payload, the number of bytes behind it, and
the bounds of the first of these. -/
def opening? (b : UInt8) : Option (Nat × Nat × UInt8 × UInt8) :=
  if b < 0x80 then some (b.toNat, 0, 0x80, 0xBF)
  else if b < 0xC2 then none
  else if b < 0xE0 then some (b.toNat % 0x20, 1, 0x80, 0xBF)
  else if b < 0xF0 then
    some (b.toNat % 0x10, 2, if b = 0xE0 then 0xA0 else 0x80, if b = 0xED then 0x9F else 0xBF)
  else if b < 0xF5 then
    some (b.toNat % 0x8, 3, if b = 0xF0 then 0x90 else 0x80, if b = 0xF4 then 0x8F else 0xBF)
  else none

/-- Takes so many bytes that continue a character with the value `value` so far. -/
def continueFrom (value : Nat) : Nat → Bytes → Option Char × Bytes
  | 0, bytes => (some (Char.ofNat value), bytes)
  | _ + 1, [] => (none, [])
  | n + 1, b :: bytes =>
    if isContinuation b then continueFrom (value * 0x40 + payload b) n bytes
    else (none, b :: bytes)

/-- Takes the first character or damaged place of `b` and the bytes behind it. -/
def takePiece (b : UInt8) (bytes : Bytes) : Option Char × Bytes :=
  match opening? b with
  | none => (none, bytes)
  | some (value, 0, _, _) => (some (Char.ofNat value), bytes)
  | some (value, n + 1, low, high) =>
    match bytes with
    | [] => (none, [])
    | c :: rest =>
      if low ≤ c && c ≤ high then continueFrom (value * 0x40 + payload c) n rest
      else (none, c :: rest)

/-- The characters and damaged places of some bytes; `fuel` bounds their number. -/
def piecesFrom : Nat → Bytes → List (Option Char)
  | _, [] => []
  | 0, _ => []
  | fuel + 1, b :: bytes =>
    let (piece, rest) := takePiece b bytes
    piece :: piecesFrom fuel rest

/-- The characters and damaged places of some bytes. -/
def pieces (bytes : Bytes) : List (Option Char) :=
  piecesFrom bytes.length bytes

/-- The bytes of a character. -/
def encodeChar (c : Char) : Bytes :=
  let n := c.toNat
  let inner (shift : Nat) : UInt8 := .ofNat (0x80 + n / shift % 0x40)
  if n < 0x80 then [.ofNat n]
  else if n < 0x800 then [.ofNat (0xC0 + n / 0x40), inner 1]
  else if n < 0x10000 then [.ofNat (0xE0 + n / 0x1000), inner 0x40, inner 1]
  else [.ofNat (0xF0 + n / 0x40000), inner 0x1000, inner 0x40, inner 1]

/-- The bytes of a text. -/
def encode (s : Text) : Bytes :=
  s.flatMap encodeChar

/-- The number of bytes that a text has. -/
def length (s : Text) : Nat :=
  (encode s).length

/-- The text of bytes that are all right. -/
def decode? (bytes : Bytes) : Option Text :=
  (pieces bytes).mapM id

/-- The text of bytes, with a replacement character for each damaged place. -/
def decodeLossy (bytes : Bytes) : Text :=
  (pieces bytes).map fun piece => piece.getD (Char.ofNat 0xFFFD)

end Weaver.Utf8
