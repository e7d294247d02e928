import Weaver.Text.Basic

/-!
# White Space

The characters with the Unicode property `White_Space`, and the ways of cutting a text at
them.

## Main definitions

* `isBlank`: the property.
* `Text.trim`: a text without the white space around it.
* `Text.words`: the maximal runs of other characters.
-/

namespace Weaver

/-- Whether a character has the Unicode property `White_Space`. -/
def isBlank (c : Char) : Bool :=
  let n := c.toNat
  (0x9 ≤ n && n ≤ 0xD) || n == 0x20 || n == 0x85 || n == 0xA0 || n == 0x1680 ||
    (0x2000 ≤ n && n ≤ 0x200A) || n == 0x2028 || n == 0x2029 || n == 0x202F ||
    n == 0x205F || n == 0x3000

namespace Text

/-- The text without the white space it starts with. -/
def trimStart (s : Text) : Text :=
  s.dropWhile isBlank

/-- The text without the white space it ends with. -/
def trimEnd (s : Text) : Text :=
  (s.reverse.dropWhile isBlank).reverse

/-- The text without the white space around it. -/
def trim (s : Text) : Text :=
  trimEnd (trimStart s)

/-- The maximal runs of characters that are no white space. -/
def words (s : Text) : List Text :=
  (splitBy isBlank s).filter (· ≠ [])

/-- What is left after dropping is no longer than the list. -/
theorem length_dropWhile_le {α : Type} (p : α → Bool) (l : List α) :
    (l.dropWhile p).length ≤ l.length :=
  (List.dropWhile_sublist p).length_le

/-- A trimmed text is no longer than the text. -/
theorem length_trim_le (s : Text) : (trim s).length ≤ s.length := by
  have h₁ := length_dropWhile_le isBlank s
  have h₂ := length_dropWhile_le isBlank (trimStart s).reverse
  simp only [trim, trimEnd, trimStart, List.length_reverse] at *
  omega

end Text

end Weaver
