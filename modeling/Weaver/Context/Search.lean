import Weaver.Context.Basic

/-!
# Programs on a Search Path

A program is looked for in the directories of a search path. What has been found once is
remembered, and so is the configuration.

## Main definitions

* `findProgram`: the first file on a search path that can be run.
* `ContextCache`: what has been found so far.
-/

namespace Weaver

/-! ### Searching -/

/-- Whether a path leads to a file that can be run. -/
def Disk.isProgram (d : Disk) (p : Text) : Bool :=
  match d.stat p with
  | .ok (.file _ executable) => executable
  | _ => false

/-- Whether a name leads to a program by itself, without a search. -/
def leadsSomewhere (name : Text) : Bool :=
  let dotted := name.take 2 == "./".toList || name == ['.']
  let front := (if Path.isAbsolute name then 1 else 0) + (if dotted then 1 else 0)
  1 < front + (Path.parts name).length

/-- A path seen from a directory; a dot in front of it does not count. -/
def absolutePath (dir p : Text) : Text :=
  if Path.isAbsolute p then p
  else (Path.parts p).foldl Path.join dir

/-- The path of a directory from its names. -/
def Place.path (place : Place) : Text :=
  '/' :: Text.join ['/'] place

/-- Where a program may be, in the order of the search. -/
def programCandidates (d : Disk) (searchPath name : Text) : List Text :=
  if leadsSomewhere name then [absolutePath (Place.path d.workingDir) name]
  else (Text.splitOn ':' searchPath).map fun dir => Path.join dir name

/-- The first file on a search path that has a name and can be run. -/
def findProgram (d : Disk) (searchPath name : Text) : Option Text :=
  (programCandidates d searchPath name).find? d.isProgram

/-! ### Remembering -/

/-- What has been found so far. -/
structure ContextCache where
  /-- Names of programs and their paths. -/
  programs : List (Text × Text)
  /-- The configuration, or that there is none, once that is known. -/
  config? : Option (Option Config)

namespace ContextCache

/-- Nothing has been found yet. -/
def empty : ContextCache where
  programs := []
  config? := none

/-- The path of a program: the one remembered, or else the one that is found now. That a
program is missing is not remembered. -/
def program? (cache : ContextCache) (find : Text → Option Text) (name : Text) :
    Option Text × ContextCache :=
  match cache.programs.find? fun (n, _) => n == name with
  | some (_, path) => (some path, cache)
  | none =>
    match find name with
    | some path => (some path, { cache with programs := cache.programs ++ [(name, path)] })
    | none => (none, cache)

/-- The configuration: the one remembered, or else the one that is read now. Failures are
not remembered. -/
def config (cache : ContextCache) (read : Except Error (Option Config)) :
    Except Error (Option Config) × ContextCache :=
  match cache.config?, read with
  | some config, _ => (.ok config, cache)
  | none, .ok config => (.ok config, { cache with config? := some config })
  | none, .error e => (.error e, cache)

end ContextCache

end Weaver
