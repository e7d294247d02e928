import Weaver.Command.Output
import Weaver.Files.Disk

/-!
# Machines

What a run needs of the outer world: commands that are run and files that are read and
written. Nothing is assumed of either; every operation may fail, and it may change
anything.

## Main definitions

* `Machine`: the operations on a state of the outer world.
* `OnMachine`: runs that change such a state and may fail.
* `Machine.ofDisk`: files on a disk, together with any way of running commands.
-/

namespace Weaver

/-- The operations of an outer world whose states are `σ`. -/
structure Machine (σ : Type) where
  run : Text → List Text → σ → Except IoFault CommandOutput × σ
  ensureDir : Text → σ → Except IoFault Unit × σ
  newTempDir : σ → Except IoFault Text × σ
  readText : Text → σ → Except IoFault Text × σ
  writeText : Text → Text → σ → Except IoFault Unit × σ
  removeTree : Text → σ → Except IoFault Unit × σ

/-- Runs that change a state of the outer world and may fail. -/
abbrev OnMachine (σ α : Type) := σ → Except Error α × σ

namespace OnMachine

/-- A run that changes nothing. -/
def result {σ α : Type} (r : Except Error α) : OnMachine σ α :=
  fun s => (r, s)

/-- One run after the other, unless the first fails. -/
def andThen {σ α β : Type} (first : OnMachine σ α) (second : α → OnMachine σ β) :
    OnMachine σ β := fun s =>
  match first s with
  | (.ok a, s) => second a s
  | (.error e, s) => (.error e, s)

/-- An operation of a machine as a run. -/
def ofStep {σ α : Type} (step : σ → Except IoFault α × σ) : OnMachine σ α := fun s =>
  match step s with
  | (.ok a, s) => (.ok a, s)
  | (.error fault, s) => (.error (.io fault), s)

instance {σ : Type} : Monad (OnMachine σ) where
  pure a := result (.ok a)
  bind := andThen

end OnMachine

namespace Machine

/-- The text in a file, which has to exist. -/
def requireText {σ : Type} (m : Machine σ) (path : Text) : OnMachine σ Text := fun s =>
  match m.readText path s with
  | (.ok text, s) => (.ok text, s)
  | (.error .notFound, s) => (.error (.missingFile path), s)
  | (.error fault, s) => (.error (.io fault), s)

/-- An operation on a part of a state. -/
def onPart {σ τ α : Type} (get : σ → τ) (set : τ → σ → σ) (op : τ → Except IoFault α × τ)
    (s : σ) : Except IoFault α × σ :=
  let (r, part) := op (get s)
  (r, set part s)

/-- A change of a disk that may fail. -/
def change (op : Disk → Except IoFault Disk) (d : Disk) : Except IoFault Unit × Disk :=
  match op d with
  | .ok d => (.ok (), d)
  | .error fault => (.error fault, d)

/-- The machine whose files are on the disk in a state. -/
def ofDisk {σ : Type} (disk : σ → Disk) (setDisk : Disk → σ → σ)
    (run : Text → List Text → σ → Except IoFault CommandOutput × σ) : Machine σ where
  run := run
  ensureDir path := onPart disk setDisk (change fun d => d.ensureDir path)
  newTempDir := onPart disk setDisk fun d => (.ok d.newTempDir.1, d.newTempDir.2)
  readText path s := ((disk s).readText path, s)
  writeText path text := onPart disk setDisk (change fun d => d.writeText path text)
  removeTree path := onPart disk setDisk (change fun d => d.removeTree path)

end Machine

end Weaver
