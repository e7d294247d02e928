import Weaver.Cli.Command
import Weaver.Cli.LogSpec
import Weaver.Context.Search
import Weaver.Package.Archive
import Weaver.Package.InjectionJob
import Weaver.Package.Zip
import Weaver.Pass.Wrapping
import Weaver.Report.Outcome
import Weaver.Shell.Run

/-!
# Running the Program

A command line is run on a disk. It prints something and ends with an exit code; failures
are told on the error stream.

## Main definitions

* `CliFailure`, `CliResult`.
* `CliCommand.run`: what a command does.
* `runProgram`: what a command line does.
-/

namespace Weaver

/-- Why a command fails. -/
inductive CliFailure where
  | error (e : Error)
  | badLogSpec (spec : Text)
  /-- A file that is named on the command line cannot be read. -/
  | unreadable (path : Text)
  | nothingToReplace
deriving DecidableEq, Repr

/-- The wording of a failure. -/
def CliFailure.message : CliFailure → Text
  | error e => e.message
  | badLogSpec spec => "parsing log spec ".toList ++ spec
  | unreadable path => "reading ".toList ++ path
  | nothingToReplace => "no replacements given".toList

/-- What a command line leaves. -/
structure CliResult where
  exit : Nat
  out : Text
  failure : Option CliFailure
  disk : Disk

/-- Runs of commands: what they print, and the disk that they leave. -/
abbrev CliRun := Disk → Except CliFailure Text × Disk

namespace CliRun

/-- A run of the library as a run of a command that prints its result. -/
def ofRun {α : Type} (run : Disk → Except Error α × Disk) (print : α → Text) : CliRun := fun d =>
  let (r, d) := run d
  ((r.mapError .error).map print, d)

/-- A line of output. -/
def line (s : Text) : Text :=
  s ++ ['\n']

/-- A report as it is printed. -/
def report (json : Bool) (text : Text) (value : JsonValue) : Text :=
  if json then line value.text else text

/-- Loads classes, rewrites one body, and writes the classes. -/
def rewriteClasses {α : Type} (classes out : Text) (method : MethodRef)
    (edit : Body → Scene → Except Fault α × Body) (print : α → Text) : CliRun :=
  ofRun (fun d =>
    match Scene.loadDir d classes with
    | .error e => (.error e, d)
    | .ok s =>
      match s.rewriteBody method id edit with
      | (.error fault, _) => (.error (.code fault), d)
      | (.ok a, s) =>
        let (written, d) := s.dumpDir out d
        (written.map fun _ => a, d)) print

/-- Runs the packager that the settings give. -/
def withPackager {α : Type} (c : Context) (run : Packager → OnMachine Disk α) (print : α → Text) :
    CliRun :=
  ofRun (fun d =>
    match (c.settings d).bind (Packager.ofSettings c) with
    | .error e => (.error e, d)
    | .ok p => run p d) print

end CliRun

/-! ### Commands -/

/-- The version of the program. -/
def programVersion : Text :=
  "0.3.0".toList

/-- The data in a file. -/
def Disk.readData (d : Disk) (path : Text) : Except IoFault Data := do
  return .ofBytes (← d.read path).bytes

namespace CliCommand

open CliRun in
/-- Runs a command. -/
def run (c : Context) : CliCommand → CliRun
  | version => fun d => (.ok (line programVersion), d)
  | inject classes out decoded entryPoints json =>
    ofRun (fun d =>
      match c.settings d with
      | .error e => (.error e, d)
      | .ok settings =>
        InjectionJob.run { classes, out, decoded, entryPoints } settings .androidView d)
      fun outcome => report json outcome.text outcome.json
  | replaceType classes out method old new json =>
    rewriteClasses classes out method
      (fun body s => body.replaceType s old new)
      fun r => report json r.text r.json
  | wrapArguments classes out method helper argument =>
    rewriteClasses classes out method
      (fun body _ => body.wrapFirstArgument helper (· == argument))
      fun count =>
        line ("wrapped ".toList ++ natText count ++ " arguments in ".toList ++ method.text)
  | adaptManifest archive replacements => fun d =>
    if replacements.isEmpty then (.error .nothingToReplace, d)
    else withPackager c (fun p => p.adaptManifest Disk.machine archive replacements) line d
  | replaceManifest archive manifest => fun d =>
    match d.readText manifest with
    | .error _ => (.error (.unreadable manifest), d)
    | .ok text => withPackager c (fun p => p.replaceManifest Disk.machine archive text) line d
  | addFile archive name file => fun d =>
    match d.readData file with
    | .error _ => (.error (.unreadable file), d)
    | .ok data =>
      match Archive.addFile archive name data d with
      | .error e => (.error (.error e), d)
      | .ok (out, d) => (.ok (line out), d)
  | decode archive workdir =>
    withPackager c (fun p => p.decode Disk.machine archive workdir) line
  | build workdir archive =>
    withPackager c (fun p => p.build Disk.machine workdir archive) fun _ => []

end CliCommand

/-- Runs a command line that has been read. -/
def CliCall.run (c : Context) (call : CliCall) (d : Disk) : Except CliFailure Text × Disk :=
  match call.command, call.logSpec with
  | .version, _ => call.command.run c d
  | _, some spec =>
    if LogSpec.isValid spec then call.command.run c d else (.error (.badLogSpec spec), d)
  | _, none => call.command.run c d

/-! ### The program -/

/-- The variable with the search path for programs. -/
def searchVariable : Text :=
  "DROIDINJECT_PATH".toList

/-- The path of a program: on the search path if there is one, or else among the tools. -/
def programPath (env : List (Text × Text)) (d : Disk) (name : Text) : Option Text :=
  match (env.find? fun (k, _) => k == searchVariable).map Prod.snd with
  | some path => findProgram d path name
  | none =>
    if List.elem name Disk.shellNames || (tool? name).isSome then some ("/usr/bin/".toList ++ name)
    else none

/-- Runs a command line with the variables of an environment. -/
def runProgram (env : List (Text × Text)) (userDir : Text) (args : List Text) (d : Disk) :
    CliResult :=
  let c : Context :=
    { Context.ofTables env [] userDir with program? := programPath env d }
  match CliCall.read args with
  | .error .version =>
    { exit := 0, out := CliRun.line ("droidinject ".toList ++ programVersion), failure := none,
      disk := d }
  | .error .help => { exit := 0, out := [], failure := none, disk := d }
  | .error .misuse => { exit := 2, out := [], failure := none, disk := d }
  | .ok call =>
    match call.run c d with
    | (.ok out, d) => { exit := 0, out, failure := none, disk := d }
    | (.error failure, d) => { exit := 1, out := [], failure := some failure, disk := d }

end Weaver
