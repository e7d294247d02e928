import Weaver.Config.Settings
import Weaver.Files.Classes
import Weaver.Layout.Handlers
import Weaver.Manifest.File
import Weaver.Package.Packager
import Weaver.Pass.Injection
import Weaver.Pass.Seeding

/-!
# Injection into Directories of Classes

All classes of a directory are loaded, the calls are inserted, and the classes are
written to another directory.

## Main definitions

* `InjectionJob`: what is read and where the result goes.
* `InjectionJob.run`.
-/

namespace Weaver

/-- What an injection reads and where its result goes. -/
structure InjectionJob where
  classes : Text
  out : Text
  /-- An unpacked archive with a manifest and layouts. -/
  decoded : Option Text
  /-- The entry points; if there are none, the manifest gives them. -/
  entryPoints : List MethodRef

namespace InjectionJob

/-- The scene with its entry points. -/
def load (j : InjectionJob) (sig : Signature) (d : Disk) : Except Error Scene := do
  let s ← Scene.loadDir d j.classes
  if !j.entryPoints.isEmpty then return s.setEntryPoints j.entryPoints
  match j.decoded with
  | none => return s
  | some decoded =>
    let m ← Manifest.ofFile d (Path.join decoded manifestName)
    return (s.seedEntryPoints m sig).2

/-- The click handlers that the layouts name. -/
def handlers (j : InjectionJob) (d : Disk) : HandlerSource :=
  match j.decoded with
  | some decoded => Layout.handlers d decoded
  | none => .ok .empty

/-- Loads the classes, inserts the calls and writes the classes. -/
def run (j : InjectionJob) (settings : Settings) (registry : ListenerRegistry) (d : Disk) :
    Except Error InjectionOutcome × Disk :=
  match j.load settings.creation d with
  | .error e => (.error e, d)
  | .ok s =>
    match s.insertLifecycleCalls registry (j.handlers d) settings.creation with
    | (.error e, _) => (.error e, d)
    | (.ok outcome, s) =>
      let (written, d) := s.dumpDir j.out d
      (written.map fun _ => outcome, d)

end InjectionJob

end Weaver
