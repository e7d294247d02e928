import Weaver.Text.Category

/-!
# Quoted Paths

Messages show paths between double quotes. A character that would not be seen, or that would
change the look of the one before it, is shown by its number.

## Main definitions

* `hiddenSet`: the characters that are shown by number.
* `quotedPath`: a path as messages show it.
-/

namespace Weaver

/-- The characters that cannot be seen on their own: controls, formats, unassigned and private
points, separators except the blank, and marks that join the character before them. -/
def hiddenSet : CharSet :=
  ((categorySet
      (["Cc", "Cf", "Cn", "Co", "Cs", "Zl", "Zp", "Zs", "Mn", "Me"].map String.toList)).union
    [(0x9BE, 0x9BE), (0x9D7, 0x9D7), (0xB3E, 0xB3E), (0xB57, 0xB57), (0xBBE, 0xBBE),
      (0xBD7, 0xBD7), (0xCC2, 0xCC2), (0xCD5, 0xCD6), (0xD3E, 0xD3E), (0xD57, 0xD57),
      (0xDCF, 0xDCF), (0xDDF, 0xDDF), (0x1B35, 0x1B35), (0x302E, 0x302F), (0xFF9E, 0xFF9F),
      (0x1133E, 0x1133E), (0x11357, 0x11357), (0x114B0, 0x114B0), (0x114BD, 0x114BD),
      (0x115AF, 0x115AF), (0x11930, 0x11930), (0x1D165, 0x1D165), (0x1D16E, 0x1D172)]).diff
    (.single ' ')

/-- How a quoted path shows a character. -/
def quotedChar (c : Char) : Text :=
  match c with
  | '"' => ['\\', '"']
  | '\'' => ['\\', '\'']
  | '\\' => ['\\', '\\']
  | '\n' => ['\\', 'n']
  | '\t' => ['\\', 't']
  | '\r' => ['\\', 'r']
  | '\x00' => ['\\', '0']
  | c =>
    if hiddenSet.contains c then
      "\\u\x7b".toList ++ Nat.toDigits 16 c.toNat ++ "\x7d".toList
    else [c]

/-- A path between double quotes. -/
def quotedPath (path : Text) : Text :=
  '"' :: path.flatMap quotedChar ++ ['"']

end Weaver
