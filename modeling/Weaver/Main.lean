import Weaver.Cli.Run
import Weaver.Package.Zip

/-!
# The Command Line

The files that a command line can name are put on a disk, the command line is run on that
disk, and what has changed is written back.

## Main definitions

* `FileSystem.load`: puts what a path leads to on a disk.
* `FileSystem.store`: writes what has changed on a disk.
* `main`: reads the environment, runs the command line and prints what it says.
-/

namespace Weaver.FileSystem

/-- A place as the file system names it. -/
def pathOf (place : Place) : String :=
  .ofList ('/' :: Text.join ['/'] place)

/-- Puts an entry of a directory on a disk, and all that is below it. -/
partial def loadEntry (d : Disk) (entry : IO.FS.DirEntry) : IO Disk := do
  let path := entry.path.toString.toList
  if ← entry.path.isDir then
    (← entry.path.readDir).foldlM loadEntry ((d.ensureDir path).toOption.getD d)
  else
    let contents := Contents.ofBytes (← IO.FS.readBinFile entry.path)
    return (d.install path (.file contents true)).toOption.getD d

/-- Puts what a path leads to on a disk; if there is nothing, the directory in which it
would be. -/
def load (d : Disk) (path : Text) : IO Disk := do
  let above := (Path.parent? path).getD []
  let there : IO.FS.DirEntry := { root := ".", fileName := .ofList path }
  let aboveIt : IO.FS.DirEntry := { root := ".", fileName := .ofList above }
  if ← there.path.pathExists then loadEntry d there
  else if ← aboveIt.path.isDir then return (d.ensureDir above).toOption.getD d
  else return d

/-- Writes what `new` has and `old` has not, and removes the files that only `old` has. -/
def store (old new : Disk) : IO Unit := do
  for (place, node) in old.nodes do
    if (new.at? place).isNone && node != .dir then IO.FS.removeFile (pathOf place)
  for (place, node) in new.nodes do
    if old.at? place != some node then
      match node with
      | .dir => IO.FS.createDirAll (pathOf place)
      | .file contents _ => IO.FS.writeBinFile (pathOf place) ⟨contents.bytes.toArray⟩

end Weaver.FileSystem

open Weaver

/-- The variables that a run asks for, as far as they are set. -/
def readVariables (names : List Text) : IO (List (Text × Text)) := do
  let values ← names.mapM fun name => IO.getEnv (.ofList name)
  return (names.zip values).filterMap fun (name, value) => value.map fun v => (name, v.toList)

/-- The directory of the user's configuration. -/
def readUserDir : IO Text := do
  let home := ((← IO.getEnv "HOME").getD "").toList
  let base := ((← IO.getEnv "XDG_CONFIG_HOME").map String.toList).getD (Path.join home ".config".toList)
  return Path.join base "droidinject".toList

/-- The paths that an argument may hold: all of it, or the value of an option. -/
def pathsIn (arg : Text) : List Text :=
  let value := (Text.cutAt? ['='] arg).map Prod.snd
  (arg :: value.toList).filter (Text.contains · ['/'])

/-- Runs a command line on the files of the working directory and on those that the
arguments and variables name. -/
def main (args : List String) : IO UInt32 := do
  let args := args.map String.toList
  let env ← readVariables [Context.configVariable, searchVariable]
  let userDir ← readUserDir
  let named := args.flatMap pathsIn ++ env.map Prod.snd ++ [userDir]
  let workingDir := (← IO.currentDir).toString.toList
  let before ← (workingDir :: named).foldlM FileSystem.load (.blank workingDir)
  let result := runProgram env userDir args before
  FileSystem.store before result.disk
  IO.print (String.ofList result.out)
  match result.failure with
  | some failure => IO.eprintln (String.ofList ("Error: ".toList ++ failure.message))
  | none => pure ()
  return .ofNat result.exit
