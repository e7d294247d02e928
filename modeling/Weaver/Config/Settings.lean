import Weaver.Command.Line
import Weaver.Config.Table
import Weaver.Pass.Lifecycle

/-!
# Settings

What a configuration can set. Everything that it leaves out has a default.

## Main definitions

* `Settings`, `Settings.default`.
* `Settings.ofTable`, `Settings.ofConfig`: the settings that a configuration makes.
-/

namespace Weaver

/-- The program that unpacks and packs archives. -/
structure DecompilerCommand where
  program : Text
  /-- Arguments in front of all others. -/
  args : List Text
deriving DecidableEq, Repr

/-- The words of a command. -/
def DecompilerCommand.words (c : DecompilerCommand) : List Text :=
  c.program :: c.args

/-- The settings of a run. -/
structure Settings where
  decompiler : DecompilerCommand
  /-- Where archives are unpacked; a temporary directory if there is none. -/
  workdir : Option Text
  /-- Whether the unpacked files are removed in the end. -/
  cleanup : Bool
  /-- The signature of the method that activities are created by. -/
  creation : Signature

namespace Settings

/-- The settings without a configuration. -/
def default : Settings where
  decompiler := { program := "apktool".toList, args := [] }
  workdir := none
  cleanup := true
  creation := creationSignature

/-- The decompiler that a table names. -/
def decompilerOf (t : ConfigTable) : Except Error DecompilerCommand := do
  match ← t.checkedString "decompiler".toList with
  | none => return default.decompiler
  | some line =>
    match CommandLine.split? line with
    | some (program :: args) => return { program, args }
    | _ => throw (t.badValue "decompiler".toList "command line".toList)

/-- The creation signature that a table sets. -/
def creationOf (t : ConfigTable) : Except Error Signature := do
  match ← t.checkedTable "instrument".toList with
  | none => return default.creation
  | some inner =>
    match ← inner.checkedString "creation_signature".toList with
    | none => return default.creation
    | some s =>
      (Signature.read s).mapError fun _ =>
        inner.badValue "creation_signature".toList "method signature".toList

/-- The settings that a table makes. -/
def ofTable (t : ConfigTable) : Except Error Settings := do
  let decompiler ← decompilerOf t
  let workdir ← t.checkedString "workdir".toList
  let cleanup ← t.checkedBool "cleanup".toList
  let creation ← creationOf t
  return { decompiler, workdir, cleanup := cleanup.getD default.cleanup, creation }

/-- The settings that a configuration makes, if there is one. -/
def ofConfig : Option Config → Except Error Settings
  | some c => ofTable c.table
  | none => .ok default

end Settings

end Weaver
