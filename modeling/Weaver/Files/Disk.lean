import Weaver.Error
import Weaver.Files.Path
import Weaver.Text.Order
import Weaver.Text.Utf8

/-!
# Disks

A disk is a set of named places, each a directory or a file, together with the directory
that relative paths start from. Operations take paths and fail the way a file system
does.

## Main definitions

* `Data`, `Contents`, `Node`, `Place`, `Disk`.
* `Disk.locate`, `Disk.stat`: what a path means.
* `Disk.read`, `Disk.readText`, `Disk.write`, `Disk.ensureDir`, `Disk.removeTree`.
* `Disk.childNames`, `Disk.filesBelow`: what is in a directory.
-/

namespace Weaver

/-- The bytes of a file; those that are a text are kept as one. -/
inductive Data where
  | text (s : Text)
  /-- Bytes that are not UTF-8. -/
  | raw (bytes : Utf8.Bytes)
deriving DecidableEq, Repr

namespace Data

/-- The data that some bytes are. -/
def ofBytes (bytes : Utf8.Bytes) : Data :=
  match Utf8.decode? bytes with
  | some s => text s
  | none => raw bytes

/-- The data as bytes. -/
def bytes : Data → Utf8.Bytes
  | text s => Utf8.encode s
  | raw bytes => bytes

/-- The data as a text, with replacement characters for what is not UTF-8. -/
def lossyText : Data → Text
  | text s => s
  | raw bytes => Utf8.decodeLossy bytes

end Data

/-- What is in a file. -/
inductive Contents where
  | data (d : Data)
  /-- The entries of an archive, each a name and its data. -/
  | archive (entries : List (Text × Data))
deriving DecidableEq, Repr

/-- What is at a place. -/
inductive Node where
  | dir
  | file (contents : Contents) (executable : Bool)
deriving DecidableEq, Repr

/-- A place is given by the names that lead to it from the root. -/
abbrev Place := List Text

/-- A disk. The root is a directory that always exists. -/
structure Disk where
  nodes : List (Place × Node)
  /-- Where relative paths start. -/
  workingDir : Place
  /-- The number of temporary directories made so far. -/
  tempDirs : Nat

namespace Disk

/-! ### Places -/

/-- What is at a place. -/
def at? (d : Disk) (place : Place) : Option Node :=
  if place = [] then some .dir else (d.nodes.find? fun (p, _) => p == place).map Prod.snd

/-- Puts a node at a place. -/
def put (d : Disk) (place : Place) (node : Node) : Disk :=
  let others := d.nodes.filter fun (p, _) => p != place
  { d with nodes := others ++ [(place, node)] }

/-- Removes all places below one. -/
def clear (d : Disk) (place : Place) : Disk :=
  let outside (p : Place) : Bool := !(place.isPrefixOf p && p != place)
  { d with nodes := d.nodes.filter fun (p, _) => outside p }

/-- Removes a place and all places below it. -/
def erase (d : Disk) (place : Place) : Disk :=
  { d with nodes := d.nodes.filter fun (p, _) => !place.isPrefixOf p }

/-! ### Paths -/

/-- The parts of a path that are followed: a slash at the end stands for a dot behind
it. -/
def steps (p : Text) : List Text :=
  let parts := (Text.splitOn '/' p).filter (· ≠ [])
  if Text.endsWith p ['/'] then parts ++ [['.']] else parts

/-- The longest name that a place may have, in bytes. -/
def maxNameLength : Nat :=
  255

/-- Fails unless a place is a directory. -/
def requireDir (d : Disk) (place : Place) : Except IoFault Unit :=
  match d.at? place with
  | none => .error .notFound
  | some .dir => .ok ()
  | some (.file ..) => .error .notDirectory

/-- Follows the parts of a path from a place on. -/
def follow (d : Disk) (place : Place) : List Text → Except IoFault Place
  | [] => .ok place
  | step :: rest => do
    d.requireDir place
    if step = ['.'] then d.follow place rest
    else if step = "..".toList then d.follow place.dropLast rest
    else if maxNameLength < Utf8.length step then throw .nameTooLong
    else d.follow (place ++ [step]) rest

/-- The place that a path leads to; there need not be anything. -/
def locate (d : Disk) (p : Text) : Except IoFault Place :=
  if p.isEmpty then .error .notFound
  else d.follow (if Path.isAbsolute p then [] else d.workingDir) (steps p)

/-- What is where a path leads to. -/
def stat (d : Disk) (p : Text) : Except IoFault Node := do
  match d.at? (← d.locate p) with
  | some node => return node
  | none => throw .notFound

/-- Whether a path leads to something. -/
def holds (d : Disk) (p : Text) : Bool :=
  (d.stat p).toOption.isSome

/-- Whether a path leads to a directory. -/
def isDir (d : Disk) (p : Text) : Bool :=
  match d.stat p with
  | .ok .dir => true
  | _ => false

/-- Whether a path leads to a file. -/
def isFile (d : Disk) (p : Text) : Bool :=
  match d.stat p with
  | .ok (.file ..) => true
  | _ => false

/-! ### Files -/

/-- What is in the file that a path leads to. -/
def read (d : Disk) (p : Text) : Except IoFault Contents := do
  match ← d.stat p with
  | .file contents _ => return contents
  | .dir => throw .isDirectory

/-- The text in the file that a path leads to. -/
def readText (d : Disk) (p : Text) : Except IoFault Text := do
  match ← d.read p with
  | .data (.text s) => return s
  | _ => throw .notText

/-- The text in a file, which has to exist. -/
def requireText (d : Disk) (p : Text) : Except Error Text :=
  match d.readText p with
  | .ok s => .ok s
  | .error .notFound => .error (.missingFile p)
  | .error fault => .error (.io fault)

/-- Puts contents into a file, which is made if there is none. -/
def write (d : Disk) (p : Text) (contents : Contents) : Except IoFault Disk := do
  let place ← d.locate p
  match d.at? place with
  | some .dir => throw .isDirectory
  | some (.file _ executable) => return d.put place (.file contents executable)
  | none => return d.put place (.file contents false)

/-- Puts a text into a file. -/
def writeText (d : Disk) (p s : Text) : Except IoFault Disk :=
  d.write p (.data (.text s))

/-! ### Directories -/

/-- A path without the slashes it ends with. -/
def dropSlashes (p : Text) : Text :=
  let body := (p.reverse.dropWhile (· == '/')).reverse
  if body.isEmpty then p.take 1 else body

/-- Makes a directory in one that exists. -/
def makeDir (d : Disk) (p : Text) : Except IoFault Disk := do
  let place ← d.locate (dropSlashes p)
  match d.at? place with
  | some _ => throw .alreadyExists
  | none => return d.put place .dir

/-- Makes a directory in one that exists; a directory that is there already is fine. -/
def makeDirUnlessThere (d : Disk) (p : Text) : Except IoFault Disk :=
  match d.makeDir p with
  | .ok d => .ok d
  | .error fault => if d.isDir p then .ok d else .error fault

/-- Makes a directory and those above it that are missing; `fuel` bounds their number. -/
def makeDirs : Nat → Disk → Text → Except IoFault Disk
  | 0, _, _ => .error .notFound
  | fuel + 1, d, p =>
    if p.isEmpty then .ok d
    else
      match d.makeDirUnlessThere p with
      | .error .notFound => do
        let d ← makeDirs fuel d ((Path.parent? p).getD [])
        d.makeDirUnlessThere p
      | r => r

/-- Makes sure that there is something where a path leads to: a directory, unless
something is there already. -/
def ensureDir (d : Disk) (p : Text) : Except IoFault Disk :=
  if d.holds p then .ok d else makeDirs (p.length + 1) d p

/-- Removes a directory and all that is in it. A path that ends in dots leaves the
directory itself. -/
def removeTree (d : Disk) (p : Text) : Except IoFault Disk := do
  let place ← d.locate p
  d.requireDir place
  match (steps p).getLast? with
  | some ['.'] => return d.clear place
  | some ['.', '.'] => return d.clear place
  | _ => return d.erase place

/-- Where temporary directories are made. -/
def tempRoot : Text :=
  "/tmp".toList

/-- Makes a new temporary directory. -/
def newTempDir (d : Disk) : Text × Disk :=
  let name := "droidinject_".toList ++ natText d.tempDirs
  let path := Path.join tempRoot name
  (path,
    { (d.put ["tmp".toList] .dir).put ["tmp".toList, name] .dir with tempDirs := d.tempDirs + 1 })

/-! ### New disks -/

/-- Puts a node where a path leads to; directories above it are made. -/
def install (d : Disk) (p : Text) (node : Node) : Except IoFault Disk := do
  let d ← d.ensureDir ((Path.parent? p).getD [])
  return d.put (← d.locate p) node

/-- Removes what a path leads to. -/
def remove (d : Disk) (p : Text) : Except IoFault Disk :=
  return d.erase (← d.locate p)

/-- A disk with nothing on it but the directory that relative paths start from. -/
def blank (workingDir : Text) : Disk :=
  let root : Disk := { nodes := [], workingDir := [], tempDirs := 0 }
  match root.ensureDir workingDir with
  | .ok d => { d with workingDir := Path.parts workingDir }
  | .error _ => root

/-! ### Listings -/

/-- The names in a directory, in order. -/
def childNames (d : Disk) (place : Place) : List Text :=
  sortedOfList Text.compare
    (d.nodes.filterMap fun (p, _) => if p.dropLast = place then p.getLast? else none)

/-- The files at a place and below it, in order, each with the names that lead to it from
there; `fuel` bounds the depth. -/
def filesFrom (d : Disk) : Nat → Place → List (List Text × Contents)
  | 0, _ => []
  | fuel + 1, place =>
    match d.at? place with
    | some (.file contents _) => [([], contents)]
    | some .dir =>
      (d.childNames place).flatMap fun name =>
        (d.filesFrom fuel (place ++ [name])).map fun (names, contents) => (name :: names, contents)
    | none => []

/-- A bound on the number of names that lead to places of the disk. -/
def depth (d : Disk) : Nat :=
  (d.nodes.map fun (p, _) => p.length).foldl max 0 + 1

/-- The files at a place and below it, in order, each with the names that lead to it from
there. -/
def filesBelow (d : Disk) (place : Place) : List (List Text × Contents) :=
  d.filesFrom d.depth place

end Disk

end Weaver
