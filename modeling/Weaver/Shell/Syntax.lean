import Weaver.Text.Basic

/-!
# Syntax of Shell Scripts

A script is a list of commands: words with redirections, and conditions. Words are made of
plain text and parameters.

## Main definitions

* `ShellWord`, `ShellRedirect`, `ShellCommand`.
* `ShellToken.read?`: the tokens of a script.
* `ShellCommand.read?`: the command that a script is.
-/

namespace Weaver

/-- A piece of a word. -/
inductive ShellPart where
  /-- Text that stands for itself. -/
  | plain (s : Text)
  /-- A parameter; outside quotes its value is split at blanks. -/
  | parameter (name : Text) (quoted : Bool)
deriving DecidableEq, Repr

/-- A word before parameters are replaced. -/
abbrev ShellWord := List ShellPart

/-- Where the output of a stream goes. -/
inductive ShellTarget where
  | stream (number : Nat)
  | file (word : ShellWord) (append : Bool)
deriving DecidableEq, Repr

/-- A stream, by its number, and where its output goes. -/
structure ShellRedirect where
  stream : Nat
  target : ShellTarget
deriving DecidableEq, Repr

/-- A token of a script. -/
inductive ShellToken where
  | word (w : ShellWord)
  /-- `;`, `&&`, `||` or the end of a line. -/
  | separator (s : Text)
  /-- A redirection to another stream. -/
  | toStream (stream target : Nat)
  /-- A redirection to the file that the next word names. -/
  | toFile (stream : Nat) (append : Bool)
deriving DecidableEq, Repr

/-- A command. -/
inductive ShellCommand where
  /-- Sets a variable. -/
  | assign (name : Text) (value : ShellWord)
  | simple (words : List ShellWord) (redirects : List ShellRedirect)
  | seq (first second : ShellCommand)
  /-- The second command runs only if the first succeeds. -/
  | both (first second : ShellCommand)
  /-- The second command runs only if the first fails. -/
  | either (first second : ShellCommand)
  | cond (test yes no : ShellCommand)
  | skip
deriving DecidableEq, Repr

/-! ### Words -/

namespace ShellToken

/-- Whether a character separates words. -/
def isBlank (c : Char) : Bool :=
  c == ' ' || c == '\t'

/-- Whether a character ends a word outside quotes. -/
def endsWord (c : Char) : Bool :=
  isBlank c || c == '\n' || c == ';' || c == '&' || c == '|' || c == '>' || c == '<'

/-- Takes the name of a parameter behind its dollar sign. -/
def parameterName? : Text → Option (Text × Text)
  | '\x7b' :: s => (Text.cutAtChar? '\x7d' s)
  | c :: s =>
    if c.isDigit || c == '@' || c == '#' || c == '$' || c == '?' || c == '*' then some ([c], s)
    else if c.isAlpha || c == '_' then
      let isName (c : Char) : Bool := c.isAlphanum || c == '_'
      some (c :: s.takeWhile isName, s.dropWhile isName)
    else none
  | [] => none

/-- The characters that a backslash takes the meaning from between double quotes. -/
def escapable (c : Char) : Bool :=
  c == '$' || c == '"' || c == '\\' || c == '\x60'

/-- Takes what stands between double quotes, after the parts that have been read; `fuel`
bounds the number of parts. -/
def doubleQuoted? : Nat → ShellWord → Text → Option (ShellWord × Text)
  | 0, _, _ => none
  | _, _, [] => none
  | _ + 1, parts, '"' :: s => some (if parts.isEmpty then [.plain []] else parts, s)
  | fuel + 1, parts, '\\' :: c :: s =>
    doubleQuoted? fuel (parts ++ [.plain (if escapable c then [c] else ['\\', c])]) s
  | fuel + 1, parts, '$' :: s =>
    match parameterName? s with
    | some (name, s) => doubleQuoted? fuel (parts ++ [.parameter name true]) s
    | none => doubleQuoted? fuel (parts ++ [.plain ['$']]) s
  | fuel + 1, parts, c :: s => doubleQuoted? fuel (parts ++ [.plain [c]]) s

/-- Takes the rest of a word, after the parts that have been read; `fuel` bounds the number
of parts. -/
def wordFrom? : Nat → ShellWord → Text → Option (ShellWord × Text)
  | 0, _, _ => none
  | _, parts, [] => some (parts, [])
  | fuel + 1, parts, '\'' :: s => do
    let (inside, s) ← Text.cutAtChar? '\'' s
    wordFrom? fuel (parts ++ [.plain inside]) s
  | fuel + 1, parts, '"' :: s => do
    let (inside, s) ← doubleQuoted? (s.length + 1) [] s
    wordFrom? fuel (parts ++ inside) s
  | fuel + 1, parts, '\\' :: c :: s => wordFrom? fuel (parts ++ [.plain [c]]) s
  | fuel + 1, parts, '$' :: s =>
    match parameterName? s with
    | some (name, s) => wordFrom? fuel (parts ++ [.parameter name false]) s
    | none => wordFrom? fuel (parts ++ [.plain ['$']]) s
  | fuel + 1, parts, c :: s =>
    if endsWord c then some (parts, c :: s) else wordFrom? fuel (parts ++ [.plain [c]]) s

/-! ### Tokens -/

/-- Takes a redirection of a stream behind its angle bracket. -/
def redirection (stream : Nat) : Text → ShellToken × Text
  | '&' :: '1' :: s => (toStream stream 1, s)
  | '&' :: '2' :: s => (toStream stream 2, s)
  | '>' :: s => (toFile stream true, s)
  | s => (toFile stream false, s)

/-- The tokens of a script; `fuel` bounds their number. -/
def readFrom? : Nat → Text → Option (List ShellToken)
  | 0, _ => none
  | _, [] => some []
  | fuel + 1, c :: s =>
    if isBlank c then readFrom? fuel s
    else
      let next (token : ShellToken) (s : Text) := (readFrom? fuel s).map (token :: ·)
      let redirect (stream : Nat) (s : Text) :=
        let (token, s) := redirection stream s
        next token s
      match c, s with
      | '\n', _ => next (separator ";".toList) s
      | ';', _ => next (separator ";".toList) s
      | '&', '&' :: s => next (separator "&&".toList) s
      | '|', '|' :: s => next (separator "||".toList) s
      | '#', _ => readFrom? fuel (s.dropWhile (· != '\n'))
      | '>', _ => redirect 1 s
      | '1', '>' :: s => redirect 1 s
      | '2', '>' :: s => redirect 2 s
      | _, _ =>
        if endsWord c then none
        else do
          let (w, s) ← wordFrom? ((c :: s).length + 1) [] (c :: s)
          next (word w) s

/-- The tokens of a script. -/
def read? (s : Text) : Option (List ShellToken) :=
  readFrom? (s.length + 1) s

/-- The text of a word that has no parameters and no quotes. -/
def bare? : ShellWord → Option Text
  | [] => some []
  | .plain s :: rest => (bare? rest).map (s ++ ·)
  | .parameter .. :: _ => none

/-- Whether a token is a certain bare word. -/
def isWord (text : String) : ShellToken → Bool
  | word w => bare? w == some text.toList
  | _ => false

end ShellToken

/-! ### Commands -/

namespace ShellCommand

/-- The words that end a list of commands. -/
def endsList (t : ShellToken) : Bool :=
  t.isWord "then" || t.isWord "elif" || t.isWord "else" || t.isWord "fi"

/-- Takes the words and redirections of a simple command. -/
def simple? (words : List ShellWord) (redirects : List ShellRedirect) :
    List ShellToken → Option (ShellCommand × List ShellToken)
  | .word w :: rest => simple? (words ++ [w]) redirects rest
  | .toStream stream target :: rest =>
    simple? words (redirects ++ [⟨stream, .stream target⟩]) rest
  | .toFile stream append :: .word w :: rest =>
    simple? words (redirects ++ [⟨stream, .file w append⟩]) rest
  | .toFile .. :: _ => none
  | rest => some (simple words redirects, rest)

/-- The name and the value in an assignment: a name, an equals sign, and the rest of the
word. Each character outside quotes is a part of its own. -/
def assignment? (name : Text) : ShellWord → Option (Text × ShellWord)
  | .plain ['='] :: value => if name.isEmpty then none else some (name, value)
  | .plain [c] :: rest =>
    if c.isAlpha || c == '_' || (c.isDigit && !name.isEmpty) then assignment? (name ++ [c]) rest
    else none
  | _ => none

/-- A command that is one assignment sets a variable. -/
def ofSimple : ShellCommand → ShellCommand
  | simple [w] [] =>
    match assignment? [] w with
    | some (name, value) => assign name value
    | none => simple [w] []
  | command => command

/-- Takes a certain bare word. -/
def expect? (text : String) : List ShellToken → Option (List ShellToken)
  | t :: rest => if t.isWord text then some rest else none
  | [] => none

/-- Passes over separators. -/
def skipSeparators (tokens : List ShellToken) : List ShellToken :=
  tokens.dropWhile fun
    | .separator _ => true
    | _ => false

mutual

/-- Takes one command; `fuel` bounds the depth and the number of commands. -/
def command? : Nat → List ShellToken → Option (ShellCommand × List ShellToken)
  | 0, _ => none
  | fuel + 1, tokens =>
    match tokens with
    | t :: rest =>
      if t.isWord "if" then cond? fuel rest
      else (simple? [] [] tokens).map fun (command, rest) => (ofSimple command, rest)
    | [] => none

/-- Takes a condition behind its first word. -/
def cond? : Nat → List ShellToken → Option (ShellCommand × List ShellToken)
  | 0, _ => none
  | fuel + 1, tokens => do
    let (test, rest) ← list? fuel tokens
    let (yes, rest) ← list? fuel (← expect? "then" rest)
    match rest with
    | t :: rest =>
      if t.isWord "fi" then return (cond test yes skip, rest)
      else if t.isWord "elif" then
        let (no, rest) ← cond? fuel rest
        return (cond test yes no, rest)
      else if t.isWord "else" then
        let (no, rest) ← list? fuel rest
        return (cond test yes no, ← expect? "fi" rest)
      else none
    | [] => none

/-- Takes the commands that are joined to one. -/
def joined? : Nat → ShellCommand → List ShellToken → Option (ShellCommand × List ShellToken)
  | 0, _, _ => none
  | fuel + 1, first, .separator s :: rest =>
    if s = ";".toList then some (first, .separator s :: rest)
    else do
      let (second, rest) ← command? fuel (skipSeparators rest)
      joined? fuel (if s = "&&".toList then both first second else either first second) rest
  | _, first, rest => some (first, rest)

/-- Takes commands up to the end of the list that they are in. -/
def list? : Nat → List ShellToken → Option (ShellCommand × List ShellToken)
  | 0, _ => none
  | fuel + 1, tokens =>
    match skipSeparators tokens with
    | [] => some (skip, [])
    | t :: rest =>
      if endsList t then some (skip, t :: rest)
      else do
        let (first, rest) ← command? fuel (t :: rest)
        let (first, rest) ← joined? fuel first rest
        let (second, rest) ← list? fuel rest
        return (seq first second, rest)

end

/-- The command that a script is. -/
def read? (script : Text) : Option ShellCommand := do
  let tokens ← ShellToken.read? script
  match ← list? (3 * tokens.length + 3) tokens with
  | (command, []) => some command
  | _ => none

end ShellCommand

end Weaver
