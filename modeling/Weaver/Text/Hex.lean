import Weaver.Text.Utf8

/-!
# Hexadecimal Bytes

Bytes written with two hexadecimal digits each.

## Main definitions

* `Hex.read`, `Hex.write`.
-/

namespace Weaver.Hex

/-- The digits in order of their values. -/
def digits : Text :=
  "0123456789abcdef".toList

/-- The value of a digit; other characters count as zero. -/
def value (c : Char) : Nat :=
  (digits.idxOf? c.toLower).getD 0

/-- The bytes that pairs of digits write. -/
def read : Text → Utf8.Bytes
  | high :: low :: s => .ofNat (value high * 16 + value low) :: read s
  | _ => []

/-- The two digits of a byte. -/
def writeByte (b : UInt8) : Text :=
  [digits.getD (b.toNat / 16) '0', digits.getD (b.toNat % 16) '0']

/-- The digits of some bytes. -/
def write (bytes : Utf8.Bytes) : Text :=
  bytes.flatMap writeByte

end Weaver.Hex
