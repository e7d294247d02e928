import Weaver.Jimple.Fault
import Weaver.Text.Blank

/-!
# Command Lines

A command line is split at white space outside quotes. A backslash takes the next
character as it is, also inside quotes, and a closing quote ends a word.

## Main definitions

* `CommandLine.split?`: the words of a command line.
* `CommandLine.quote`: a word between single quotes.
* `CommandLine.logged`: how a command is logged.
-/

namespace Weaver.CommandLine

/-- Whether the next character is inside quotes, and inside which. -/
inductive QuoteState where
  | outside
  | single
  | double
deriving DecidableEq, Repr

/-- Whether a character closes the quotes. -/
def QuoteState.isClosedBy : QuoteState → Char → Bool
  | single, c => c == '\''
  | double, c => c == '"'
  | outside, _ => false

/-- The quotes that a character opens. -/
def QuoteState.opened? (c : Char) : Option QuoteState :=
  match c with
  | '\'' => some .single
  | '"' => some .double
  | _ => none

/-- Splits the rest of a command line; `word` is the word that has been begun. There is no
result if quotes stay open or a backslash stands at the end. -/
def splitFrom (q : QuoteState) (word : Text) : Text → Option (List Text)
  | [] =>
    if q ≠ .outside then none else if word.isEmpty then some [] else some [word]
  | ['\\'] => none
  | '\\' :: c :: s => splitFrom q (word ++ [c]) s
  | c :: s =>
    if q.isClosedBy c then (splitFrom .outside [] s).map (word :: ·)
    else if q ≠ .outside then splitFrom q (word ++ [c]) s
    else
      match QuoteState.opened? c with
      | some opened => splitFrom opened word s
      | none =>
        if !isBlank c then splitFrom q (word ++ [c]) s
        else if word.isEmpty then splitFrom q [] s
        else (splitFrom q [] s).map (word :: ·)

/-- A backslash takes the character behind it along. -/
theorem splitFrom_backslash (q : QuoteState) (word : Text) (c : Char) (s : Text) :
    splitFrom q word ('\\' :: c :: s) = splitFrom q (word ++ [c]) s := by
  rw [splitFrom]

/-- The words of a command line. -/
def split? (s : Text) : Option (List Text) :=
  splitFrom .outside [] s

/-- How a character is written between single quotes: a single quote leaves them for a
moment. -/
def quotedChar (c : Char) : Text :=
  if c = '\'' then "'\"'\"'".toList else [c]

/-- A word between single quotes. -/
def quote (s : Text) : Text :=
  '\'' :: s.flatMap quotedChar ++ ['\'']

/-- A word as logs show it: in quotes if it is empty or has white space in it. -/
def shown (word : Text) : Text :=
  if word.isEmpty || word.any isBlank then quote word else word

/-- What is logged about a command that is to be run. -/
def logged (cmd : Text) (args : List Text) : Text :=
  "Running command: ".toList ++ cited (Text.join " ".toList ((cmd :: args).map shown))

end Weaver.CommandLine
