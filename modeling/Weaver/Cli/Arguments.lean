import Weaver.Text.Basic

/-!
# Arguments of Commands

Arguments are options, which begin with dashes, and operands. Options have a long name and
may have a letter; letters can be put together behind one dash. Two dashes alone make
operands of all that follows.

## Main definitions

* `OptionRule`, `ArgumentRules`: what a command takes.
* `ArgumentStop`: why reading ends early.
* `Arguments`, `ArgumentRules.read`: the options and operands that are given.
-/

namespace Weaver

/-- An option that a command takes. -/
structure OptionRule where
  name : Text
  letter : Option Char
  takesValue : Bool
  /-- Whether it can be given more than once. -/
  repeats : Bool
  /-- Whether a value is fine. -/
  accepts : Text → Bool

/-- What a command takes. -/
structure ArgumentRules where
  options : List OptionRule
  /-- Whether there is a version that can be asked for. -/
  hasVersion : Bool
  /-- For each operand, whether a text is fine. -/
  operands : List (Text → Bool)
  /-- Whether a text names a command, which has rules of its own for what follows. -/
  isCommand : Text → Bool

/-- Why reading arguments ends early. -/
inductive ArgumentStop where
  | help
  | version
  | misuse
deriving DecidableEq, Repr

/-- The arguments that are given. -/
structure Arguments where
  /-- Names of options and their values, in order. -/
  options : List (Text × Text)
  operands : List Text
  /-- A command and what follows it. -/
  command : Option (Text × List Text)
deriving DecidableEq, Repr

namespace Arguments

/-- No arguments. -/
def empty : Arguments where
  options := []
  operands := []
  command := none

/-- Whether an option is given. -/
def has (a : Arguments) (name : String) : Bool :=
  a.options.any fun (n, _) => n == name.toList

/-- The values of an option, in order. -/
def values (a : Arguments) (name : String) : List Text :=
  (a.options.filter fun (n, _) => n == name.toList).map Prod.snd

/-- The value of an option that is given. -/
def value? (a : Arguments) (name : String) : Option Text :=
  (a.values name).head?

end Arguments

namespace ArgumentRules

/-- Adds an option with its value. -/
def addOption (a : Arguments) (o : OptionRule) (value : Text) : Except ArgumentStop Arguments :=
  if !o.repeats && (a.options.any fun (n, _) => n == o.name) then .error .misuse
  else if !o.accepts value then .error .misuse
  else .ok { a with options := a.options ++ [(o.name, value)] }

/-- Adds an operand. -/
def addOperand (r : ArgumentRules) (a : Arguments) (s : Text) : Except ArgumentStop Arguments :=
  match r.operands[a.operands.length]? with
  | none => .error .misuse
  | some accepts =>
    if accepts s then .ok { a with operands := a.operands ++ [s] } else .error .misuse

/-- What reading an argument leads to: the arguments so far, and the option that still
needs a value. -/
abbrev Step := Except ArgumentStop (Arguments × Option OptionRule)

/-- Reads a long option, without its dashes. -/
def readLong (r : ArgumentRules) (a : Arguments) (s : Text) : Step := do
  let (name, value?) :=
    match Text.cutAtChar? '=' s with
    | some (name, value) => (name, some value)
    | none => (s, none)
  match r.options.find? fun o => o.name == name, value? with
  | some o, some value =>
    if o.takesValue then return (← addOption a o value, none) else throw .misuse
  | some o, none => if o.takesValue then return (a, some o) else return (← addOption a o [], none)
  | none, some _ => throw .misuse
  | none, none =>
    if name = "help".toList then throw .help
    else if name = "version".toList ∧ r.hasVersion then throw .version
    else throw .misuse

/-- Reads the letters behind a dash; what follows the letter of an option with a value is
that value. -/
def readLetters (r : ArgumentRules) (a : Arguments) : Text → Step
  | [] => .ok (a, none)
  | c :: s =>
    match r.options.find? fun o => o.letter == some c with
    | some o =>
      if !o.takesValue then
        match addOption a o [] with
        | .ok a => r.readLetters a s
        | .error stop => .error stop
      else if s.isEmpty then .ok (a, some o)
      else (addOption a o ((Text.stripPrefix? ['='] s).getD s)).map fun a => (a, none)
    | none =>
      if c = 'h' then .error .help
      else if c = 'V' ∧ r.hasVersion then .error .version
      else .error .misuse

/-- Reads arguments that are all operands. -/
def readOperands (r : ArgumentRules) (a : Arguments) (args : List Text) :
    Except ArgumentStop Arguments :=
  args.foldlM r.addOperand a

/-- Whether an argument looks like an option. -/
def looksLikeOption (s : Text) : Bool :=
  1 < s.length && Text.startsWith s ['-']

/-- Reads arguments; `pending` is the option that needs a value. -/
def readFrom (r : ArgumentRules) (pending : Option OptionRule) (a : Arguments) :
    List Text → Except ArgumentStop Arguments
  | [] => if pending.isSome then .error .misuse else .ok a
  | s :: rest =>
    match pending with
    | some o =>
      if looksLikeOption s then .error .misuse
      else
        match addOption a o s with
        | .ok a => r.readFrom none a rest
        | .error stop => .error stop
    | none =>
      if r.isCommand s then .ok { a with command := some (s, rest) }
      else if s = "--".toList then r.readOperands a rest
      else
        let step : Step :=
          match Text.stripPrefix? "--".toList s with
          | some long => r.readLong a long
          | none =>
            if looksLikeOption s then r.readLetters a s.tail
            else (r.addOperand a s).map fun a => (a, none)
        match step with
        | .ok (a, pending) => r.readFrom pending a rest
        | .error stop => .error stop

/-- Reads arguments. -/
def read (r : ArgumentRules) (args : List Text) : Except ArgumentStop Arguments :=
  r.readFrom none .empty args

end ArgumentRules

end Weaver
