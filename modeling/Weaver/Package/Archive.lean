import Weaver.Files.Disk

/-!
# Archives

An archive is a list of named entries. Changed archives are written next to the one that
they are made from.

## Main definitions

* `Archive.byName`: one entry for each name.
* `Archive.setEntry`: one entry with a new content.
* `Archive.addFile`: the changed copy of an archive in a file.
-/

namespace Weaver.Archive

/-- The entries of an archive with a new one behind them; entries of the same name are
left out. -/
def setEntry (name : Text) (data : Data) (entries : List (Text × Data)) : List (Text × Data) :=
  (entries.filter fun (n, _) => n != name) ++ [(name, data)]

/-- Puts an entry into an index: one that is there already keeps its place. -/
def putEntry (index : List (Text × Data)) (entry : Text × Data) : List (Text × Data) :=
  if index.any fun (n, _) => n == entry.1 then
    index.map fun old => if old.1 = entry.1 then entry else old
  else index ++ [entry]

/-- The entries by name: of some with the same name the last one counts, at the place of
the first. -/
def byName (entries : List (Text × Data)) : List (Text × Data) :=
  entries.foldl putEntry []

/-- The entries of the archive in a file. -/
def read (d : Disk) (path : Text) : Except Error (List (Text × Data)) :=
  match d.read path with
  | .ok (.archive entries) => .ok (byName entries)
  | .ok (.data _) => .error .archive
  | .error fault => .error (.io fault)

/-- Writes a copy of an archive with one entry set, and tells where. -/
def addFile (path name : Text) (data : Data) (d : Disk) : Except Error (Text × Disk) := do
  let out ← Path.modifiedArchive path
  let entries ← read d path
  match d.write out (.archive (setEntry name data entries)) with
  | .ok d => return (out, d)
  | .error fault => throw (.io fault)

end Weaver.Archive
