import Weaver.Files.Disk
import Weaver.Manifest.Reader

/-!
# Manifests in Files

## Main definitions

* `Manifest.ofFile`: the manifest in a file.
-/

namespace Weaver.Manifest

/-- The manifest that a text is. -/
def read (s : Text) : Except Error Manifest :=
  (read? s).elim (.error .manifest) .ok

/-- The manifest in a file, which has to exist. A directory can be opened but is no
manifest. -/
def ofFile (d : Disk) (path : Text) : Except Error Manifest :=
  match d.read path with
  | .ok (.data (.text s)) => read s
  | .ok _ => .error .manifest
  | .error .notFound => .error (.missingFile path)
  | .error .isDirectory => .error .manifest
  | .error fault => .error (.io fault)

end Weaver.Manifest
