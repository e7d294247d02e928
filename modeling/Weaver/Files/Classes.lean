import Weaver.Files.Disk
import Weaver.Jimple.Printer
import Weaver.Jimple.Reader.Class
import Weaver.Jimple.Scene

/-!
# Classes in Files

A scene is loaded from the class files below a directory and written back with one file
for each class.

## Main definitions

* `Listing`, `Scene.walk`: ways of finding files, and the one that is used.
* `Scene.loadFile`, `Scene.loadDirWith`, `Scene.loadDir`: classes are added in the order of their
  files.
* `Scene.writeClass`, `Scene.dumpDir`: each class goes to a file of its name.
-/

namespace Weaver

/-- A way of finding the files below a path, in some order. -/
abbrev Listing := Disk → Text → Except Error (List Text)

namespace Scene

/-- The extension of the files of classes. -/
def fileExtension : Text :=
  "jimple".toList

/-- The class that a text is, read from a file. -/
def readFileText (path s : Text) : Except Error Class :=
  (Class.read s).mapError fun fault => .generic (path ++ ": ".toList ++ fault.message)

/-- Adds the class in a file. -/
def loadFile (d : Disk) (s : Scene) (path : Text) : Except Error (Class × Scene) := do
  let c ← readFileText path (← d.requireText path)
  return (c, s.add c)

/-- The files that a walk through a directory finds, in order. What is walked through may
also be a file. -/
def walk : Listing := fun d path =>
  match d.locate path, d.stat path with
  | .ok place, .ok _ => .ok ((d.filesBelow place).map fun (names, _) => names.foldl Path.join path)
  | .error fault, _ => .error (.walk path fault)
  | _, .error fault => .error (.walk path fault)

/-- The scene of all classes in the files that a listing finds below a directory. -/
def loadDirWith (list : Listing) (d : Disk) (path : Text) : Except Error Scene := do
  let files := (← list d path).filter fun file => Path.hasExtension file fileExtension
  files.foldlM (fun s file => return (← loadFile d s file).2) .empty

/-- The scene of all classes in the files below a directory. -/
def loadDir (d : Disk) (path : Text) : Except Error Scene :=
  loadDirWith walk d path

/-- Where a class is written to. -/
def classFile (dir : Text) (c : Class) : Text :=
  Path.join dir (c.name.chars ++ '.' :: fileExtension)

/-- Writes a class to its file, and tells which that is. -/
def writeClass (s : Scene) (name : ClassName) (dir : Text) (d : Disk) :
    Except Error Text × Disk :=
  match s.class? name with
  | none => (.error (.code (.unknownClass name.chars)), d)
  | some c =>
    match d.ensureDir dir with
    | .error fault => (.error (.io fault), d)
    | .ok d =>
      match d.writeText (classFile dir c) c.text with
      | .error fault => (.error (.io fault), d)
      | .ok d => (.ok (classFile dir c), d)

/-- Writes some classes, up to the first that cannot be written. -/
def writeClasses (s : Scene) (dir : Text) : List Class → Disk → Except Error Nat × Disk
  | [], d => (.ok 0, d)
  | c :: cs, d =>
    match s.writeClass c.name dir d with
    | (.error e, d) => (.error e, d)
    | (.ok _, d) =>
      let (written, d) := s.writeClasses dir cs d
      (written.map (· + 1), d)

/-- Writes all classes, and tells how many there are. -/
def dumpDir (s : Scene) (dir : Text) (d : Disk) : Except Error Nat × Disk :=
  s.writeClasses dir s.classes d

end Scene

end Weaver
