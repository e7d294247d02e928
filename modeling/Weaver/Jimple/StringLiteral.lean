import Weaver.Text.Basic

/-!
# String Literals

Inside a string literal a quote, a backslash, a line feed, a tab and a carriage return are
written with a backslash.

## Main results

* `unescape_escape`: reading an escaped text gives the text back.
-/

namespace Weaver.StringLiteral

/-- Writes a text for the inside of a string literal. -/
def escape : Text → Text
  | [] => []
  | '"' :: s => '\\' :: '"' :: escape s
  | '\\' :: s => '\\' :: '\\' :: escape s
  | '\n' :: s => '\\' :: 'n' :: escape s
  | '\t' :: s => '\\' :: 't' :: escape s
  | '\r' :: s => '\\' :: 'r' :: escape s
  | c :: s => c :: escape s

/-- The character that a backslash before `c` stands for. -/
def escaped (c : Char) : Char :=
  match c with
  | 'n' => '\n'
  | 't' => '\t'
  | 'r' => '\r'
  | c => c

/-- Reads the inside of a string literal; a backslash at the end stands for itself. -/
def unescape : Text → Text
  | [] => []
  | ['\\'] => ['\\']
  | '\\' :: c :: s => escaped c :: unescape s
  | c :: s => c :: unescape s

/-- **Escaped texts are read back.** -/
theorem unescape_escape (s : Text) : unescape (escape s) = s := by
  fun_induction escape s <;> simp_all [unescape, escaped]

end Weaver.StringLiteral
