import Weaver.Cli.Arguments
import Weaver.Cli.Value

/-!
# The Commands of the Program

## Main definitions

* `CliCommand`: what the program can be asked to do.
* `CliCall`, `CliCall.read`: a whole command line.
-/

namespace Weaver

/-- What the program can be asked to do. -/
inductive CliCommand where
  | version
  | inject (classes out : Text) (decoded : Option Text) (entryPoints : List MethodRef)
      (json : Bool)
  | replaceType (classes out : Text) (method : MethodRef) (old new : Text) (json : Bool)
  | wrapArguments (classes out : Text) (method helper : MethodRef) (argument : Ty)
  | adaptManifest (archive : Text) (replacements : List (Text × Text))
  | replaceManifest (archive manifest : Text)
  | addFile (archive name file : Text)
  | decode (archive workdir : Text)
  | build (workdir archive : Text)

/-- A command line. -/
structure CliCall where
  logSpec : Option Text
  command : CliCommand

/-! ### Rules -/

namespace CliRules

/-- Any text is fine. -/
def anyText (_ : Text) : Bool :=
  true

/-- A path may not be empty. -/
def path (s : Text) : Bool :=
  !s.isEmpty

/-- A method reference. -/
def method (s : Text) : Bool :=
  (readMethodValue s).toOption.isSome

/-- An option that is on when it is given. -/
def flag (name : String) (letter : Option Char) : OptionRule where
  name := name.toList
  letter := letter
  takesValue := false
  repeats := false
  accepts := anyText

/-- An option with a value. -/
def valued (name : String) (letter : Option Char) (accepts : Text → Bool) : OptionRule where
  name := name.toList
  letter := letter
  takesValue := true
  repeats := false
  accepts := accepts

/-- An option that can be given again with other values. -/
def repeated (name : String) (letter : Option Char) (accepts : Text → Bool) : OptionRule :=
  { valued name letter accepts with repeats := true }

/-- The rules of a command. -/
def rules (options : List OptionRule) (operands : List (Text → Bool)) : ArgumentRules where
  options := options
  hasVersion := false
  operands := operands
  isCommand _ := false

/-- The options for the directories of classes. -/
def directories : List OptionRule :=
  [valued "classes" (some 'c') path, valued "out" (some 'o') path]

/-- The option for the method that is rewritten. -/
def methodOption : OptionRule :=
  valued "method" (some 'm') method

/-- The option for reports as JSON. -/
def json : OptionRule :=
  flag "json" none

/-- The rules of each command. -/
def commands : List (Text × ArgumentRules) :=
  [("version".toList, rules [] []),
    ("inject".toList, rules (directories ++ [valued "decoded" none path,
      repeated "entry" (some 'e') method, json]) []),
    ("replace-type".toList, rules (directories ++ [methodOption, valued "old" none anyText,
      valued "new" none anyText, json]) []),
    ("wrap-args".toList, rules (directories ++ [methodOption, valued "helper" none method,
      valued "arg-type" (some 'a') fun s => (readTypeValue s).toOption.isSome]) []),
    ("adapt-manifest".toList, rules [repeated "replace" (some 'r') fun s =>
      (readReplacement s).toOption.isSome] [path]),
    ("replace-manifest".toList, rules [] [path, path]),
    ("add-file".toList, rules [] [path, anyText, path]),
    ("decode".toList, rules [] [path, path]), ("build".toList, rules [] [path, path])]

/-- The rules of a command. -/
def command? (name : Text) : Option ArgumentRules :=
  (commands.find? fun (n, _) => n == name).map Prod.snd

/-- The command that shows how others are used. -/
def helpCommand : Text :=
  "help".toList

/-- The rules of the program itself. -/
def top : ArgumentRules where
  options :=
    [flag "debug" (some 'd'), flag "trace" (some 't'), valued "log-spec" (some 's') anyText]
  hasVersion := true
  operands := []
  isCommand name := (command? name).isSome || name == helpCommand

end CliRules

/-! ### Reading -/

namespace CliCommand

/-- The command with a name and its arguments, if nothing is missing. -/
def ofArguments? (name : Text) (a : Arguments) : Option CliCommand :=
  let method? (key : String) : Option MethodRef := do (readMethodValue (← a.value? key)).toOption
  match String.ofList name, a.operands with
  | "version", [] => some version
  | "inject", [] =>
    return inject (← a.value? "classes") (← a.value? "out") (a.value? "decoded")
      ((a.values "entry").filterMap fun s => (readMethodValue s).toOption) (a.has "json")
  | "replace-type", [] =>
    return replaceType (← a.value? "classes") (← a.value? "out") (← method? "method")
      (← a.value? "old") (← a.value? "new") (a.has "json")
  | "wrap-args", [] => do
    let argument ← (readTypeValue (← a.value? "arg-type")).toOption
    return wrapArguments (← a.value? "classes") (← a.value? "out") (← method? "method")
      (← method? "helper") argument
  | "adapt-manifest", [archive] =>
    some (adaptManifest archive
      ((a.values "replace").filterMap fun s => (readReplacement s).toOption))
  | "replace-manifest", [archive, manifest] => some (replaceManifest archive manifest)
  | "add-file", [archive, name, file] => some (addFile archive name file)
  | "decode", [archive, workdir] => some (decode archive workdir)
  | "build", [workdir, archive] => some (build workdir archive)
  | _, _ => none

end CliCommand

/-- Reads the arguments of the command that shows how others are used. -/
def readHelp : List Text → ArgumentStop
  | [] => .help
  | [name] => if (CliRules.top.isCommand name) then .help else .misuse
  | _ => .misuse

/-- Reads a command line. -/
def CliCall.read (args : List Text) : Except ArgumentStop CliCall := do
  let top ← CliRules.top.read args
  match top.command with
  | none => throw .misuse
  | some (name, rest) =>
    match CliRules.command? name with
    | none => throw (readHelp rest)
    | some rules =>
      match CliCommand.ofArguments? name (← rules.read rest) with
      | some command => return { logSpec := top.value? "log-spec", command }
      | none => throw .misuse

end Weaver
