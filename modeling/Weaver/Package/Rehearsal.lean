import Weaver.Package.Packager

/-!
# Rehearsals

In a rehearsal commands are not run: a script says how each of them ends, and what has
been asked for is recorded.

## Main definitions

* `ScriptedRun`, `RecordedRun`, `Rehearsal`.
* `Rehearsal.machine`: the machine whose commands follow the script.
-/

namespace Weaver

/-- How a command ends. -/
structure ScriptedRun where
  code : Nat
  stderr : Text
  /-- The manifest that the command leaves in the directory of its last argument. -/
  manifest : Option Text

/-- A command that has been asked for. -/
structure RecordedRun where
  cmd : Text
  args : List Text
  /-- For packing, the manifest at that time, if there is one. -/
  packed : Option (Option Text)

/-- The state of a rehearsal. -/
structure Rehearsal where
  disk : Disk
  script : List ScriptedRun
  runs : List RecordedRun

namespace Rehearsal

/-- Whether arguments ask for packing. -/
def asksToPack (args : List Text) : Bool :=
  match args.reverse with
  | _ :: _ :: verb :: _ => verb == "b".toList
  | _ => false

/-- What is recorded of a command. -/
def record (r : Rehearsal) (cmd : Text) (args : List Text) : RecordedRun :=
  let workdir := args.reverse.getD 1 []
  let manifest := (r.disk.readText (Path.join workdir manifestName)).toOption
  { cmd, args, packed := if asksToPack args then some manifest else none }

/-- Leaves a manifest in a directory, which is made if it is missing. -/
def leave (d : Disk) (dir text : Text) : Disk :=
  let made : Except IoFault Disk := do
    (← d.ensureDir dir).writeText (Path.join dir manifestName) text
  match made with
  | .ok d => d
  | .error _ => d

/-- Records a command and ends it as the script says; when the script is at its end, no
command can be started. -/
def run (cmd : Text) (args : List Text) (r : Rehearsal) :
    Except IoFault CommandOutput × Rehearsal :=
  let r := { r with runs := r.runs ++ [r.record cmd args] }
  match r.script with
  | [] => (.error .notFound, r)
  | next :: script =>
    let disk := next.manifest.elim r.disk (leave r.disk (args.getLastD []))
    let output : CommandOutput :=
      { status := .ofCode next.code, stdout := [], stderr := Utf8.encode next.stderr }
    (.ok output, { r with disk, script })

/-- The machine whose commands follow the script. -/
def machine : Machine Rehearsal :=
  .ofDisk disk (fun disk r => { r with disk }) run

end Rehearsal

/-- The number of temporary directories that are left on a disk. -/
def Disk.tempDirsLeft (d : Disk) : Nat :=
  (d.nodes.filter fun (p, node) =>
    p.length == 2 && p.take 1 == ["tmp".toList] && node == .dir).length

end Weaver
