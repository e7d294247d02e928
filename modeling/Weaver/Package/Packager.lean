import Weaver.Context.Basic
import Weaver.Package.Machine
import Weaver.Pattern.Basic

/-!
# Packagers

A packager unpacks archives and packs them again, with the decompiler that the settings
name. Rebuilding an archive with another manifest unpacks it, rewrites the manifest and
packs the result next to the unchanged archive.

## Main definitions

* `Packager`, `Packager.ofSettings`.
* `Packager.decode`, `Packager.build`: run the decompiler.
* `Packager.rebuild`: unpack, rewrite, pack and clean up.
* `Packager.replaceManifest`, `Packager.adaptManifest`: rebuild with another manifest, or with a
  rewritten one; `Packager.adaptManifestWith` does so with any engine for patterns.
-/

namespace Weaver

/-- The name of manifests in unpacked archives. -/
def manifestName : Text :=
  "AndroidManifest.xml".toList

/-- The decompiler, and where and how it is used. -/
structure Packager where
  program : Text
  /-- Arguments in front of all others. -/
  args : List Text
  /-- Where archives are unpacked; a temporary directory if there is none. -/
  workdir : Option Text
  /-- Whether the unpacked files are removed in the end. -/
  cleanup : Bool
deriving DecidableEq, Repr

namespace Packager

/-- The packager of some settings. A bare program name is looked up in the context. -/
def ofSettings (c : Context) (s : Settings) : Except Error Packager := do
  let name := s.decompiler.program
  let program ← if '/' ∈ name then .ok name else c.requireProgram name
  return { program, args := s.decompiler.args, workdir := s.workdir, cleanup := s.cleanup }

/-! ### Commands -/

/-- The arguments for unpacking. -/
def decodeArgs (p : Packager) (archive workdir : Text) : List Text :=
  p.args ++ ["d".toList, "-s".toList, "-f".toList, archive, workdir]

/-- The arguments for packing. -/
def buildArgs (p : Packager) (workdir out : Text) : List Text :=
  p.args ++ ["b".toList, workdir, out]

/-- Runs the decompiler, which has to succeed. -/
def run {σ : Type} (p : Packager) (m : Machine σ) (args : List Text) : OnMachine σ Unit := do
  let output ← OnMachine.ofStep (m.run p.program args)
  let _ ← OnMachine.result output.check

/-- Unpacks an archive, and tells where its manifest is. -/
def decode {σ : Type} (p : Packager) (m : Machine σ) (archive workdir : Text) :
    OnMachine σ Text := do
  match Path.parent? workdir with
  | some parent => OnMachine.ofStep (m.ensureDir parent)
  | none => pure ()
  p.run m (p.decodeArgs archive workdir)
  return Path.join workdir manifestName

/-- Packs an unpacked archive. -/
def build {σ : Type} (p : Packager) (m : Machine σ) (workdir out : Text) : OnMachine σ Unit :=
  p.run m (p.buildArgs workdir out)

/-! ### Rebuilding -/

/-- A directory to unpack into, and the directory to remove in the end. -/
structure Workdir where
  path : Text
  removed : Text

/-- Sets up the directory to unpack into. -/
def setUp {σ : Type} (p : Packager) (m : Machine σ) : OnMachine σ Workdir :=
  match p.workdir with
  | some dir => return { path := dir, removed := dir }
  | none => do
    let dir ← OnMachine.ofStep m.newTempDir
    return { path := Path.join dir "decoded".toList, removed := dir }

/-- Unpacks an archive, rewrites its manifest and packs it, and tells where. -/
def rebuildIn {σ : Type} (p : Packager) (m : Machine σ) (archive : Text)
    (rewrite : Text → Except Error Text) (workdir : Text) : OnMachine σ Text := do
  let manifest ← p.decode m archive workdir
  let text ← m.requireText manifest
  let new ← OnMachine.result (rewrite text)
  OnMachine.ofStep (m.writeText manifest new)
  let out ← OnMachine.result (Path.modifiedArchive archive)
  p.build m workdir out
  return out

/-- Removes the unpacked files if the settings say so; that this fails does not matter. -/
def cleanUp {σ : Type} (p : Packager) (m : Machine σ) (workdir : Workdir) (s : σ) : σ :=
  if p.cleanup then (m.removeTree workdir.removed s).2 else s

/-- Rebuilds an archive with a rewritten manifest. However that ends, it is followed by
cleaning up. -/
def rebuild {σ : Type} (p : Packager) (m : Machine σ) (archive : Text)
    (rewrite : Text → Except Error Text) : OnMachine σ Text :=
  (p.setUp m).andThen fun workdir s =>
    let (r, s) := p.rebuildIn m archive rewrite workdir.path s
    (r, p.cleanUp m workdir s)

/-- Rebuilds an archive with another manifest. -/
def replaceManifest {σ : Type} (p : Packager) (m : Machine σ) (archive manifest : Text) :
    OnMachine σ Text :=
  p.rebuild m archive fun _ => .ok manifest

/-- Rewrites a text with patterns and their replacements, in order. -/
def adapt (engine : PatternEngine) (replacements : List (Text × Text)) (text : Text) :
    Except Error Text :=
  match engine.replaceEach replacements text with
  | some text => .ok text
  | none => .error .pattern

/-- Rebuilds an archive after rewriting its manifest with patterns and their
replacements, as an engine applies them. -/
def adaptManifestWith {σ : Type} (p : Packager) (engine : PatternEngine) (m : Machine σ)
    (archive : Text) (replacements : List (Text × Text)) : OnMachine σ Text :=
  p.rebuild m archive (adapt engine replacements)

/-- Rebuilds an archive after rewriting its manifest with patterns and their
replacements. -/
def adaptManifest {σ : Type} (p : Packager) (m : Machine σ) (archive : Text)
    (replacements : List (Text × Text)) : OnMachine σ Text :=
  p.adaptManifestWith Pattern.engine m archive replacements

end Packager

end Weaver
