import Weaver.Error

/-!
# Paths

Paths are texts whose parts are separated by slashes. Empty parts and parts that are a
single dot do not count, except for a dot in front of a relative path.

## Main definitions

* `Path.parts`: the parts that count.
* `Path.cut?`, `Path.parent?`, `Path.fileName?`: the last part and what stands before it.
* `Path.stem?`, `Path.extension?`: the parts of a file name.
* `Path.join`, `Path.withFileName`.
* `Path.modifiedArchive`: where the changed copy of an archive goes.
-/

namespace Weaver.Path

/-! ### Parts -/

/-- Whether a path begins at the root. -/
def isAbsolute (p : Text) : Bool :=
  Text.startsWith p "/".toList

/-- The number of characters in front that are no ordinary part: a slash or a single
dot. -/
def headLength (p : Text) : Nat :=
  match p with
  | '/' :: _ => 1
  | ['.'] => 1
  | '.' :: '/' :: _ => 1
  | _ => 0

/-- Whether a part counts. -/
def counts (part : Text) : Bool :=
  part ≠ [] && part ≠ ['.']

/-- The parts that count; a dot in front is left out. -/
def parts (p : Text) : List Text :=
  (Text.splitOn '/' p).filter counts

/-- The last part of a path, read backwards, and what stands before it, backwards as well:
parts at the end that do not count are dropped. `fuel` bounds the number of parts. -/
def lastPart? : Nat → Text → Option (Text × Text)
  | 0, _ => none
  | fuel + 1, reversed =>
    let part := reversed.takeWhile (· != '/')
    let before := reversed.dropWhile (· != '/')
    if counts part then some (part, before.drop 1)
    else if before.isEmpty then none
    else lastPart? fuel (before.drop 1)

/-- A reversed path without the parts at its end that do not count. -/
def dropUncounted : Nat → Text → Text
  | 0, reversed => reversed
  | fuel + 1, reversed =>
    let part := reversed.takeWhile (· != '/')
    if counts part then reversed
    else dropUncounted fuel ((reversed.dropWhile (· != '/')).drop 1)

/-- The path without its last part, and the last part. -/
def cut? (p : Text) : Option (Text × Text) :=
  let head := p.take (headLength p)
  let body := (p.drop (headLength p)).reverse
  (lastPart? (p.length + 1) body).map fun (part, before) =>
    (head ++ (dropUncounted (p.length + 1) before).reverse, part.reverse)

/-- The path without its last part; the root, the empty path and a single dot have none
that could be taken away, but a single dot leaves the empty path. -/
def parent? (p : Text) : Option Text :=
  match cut? p with
  | some (before, _) => some before
  | none => if headLength p = 1 ∧ !isAbsolute p then some [] else none

/-- The last part, unless it leads upwards. -/
def fileName? (p : Text) : Option Text :=
  match cut? p with
  | some (_, name) => if name = "..".toList then none else some name
  | none => none

/-! ### File names -/

/-- A file name cut at its last dot, unless that is in front. -/
def cutName (name : Text) : Text × Option Text :=
  match Text.cutAtLast? '.' name with
  | some (stem, ext) => if stem.isEmpty then (name, none) else (stem, some ext)
  | none => (name, none)

/-- The file name without its extension. -/
def stem? (p : Text) : Option Text :=
  (fileName? p).map fun name => (cutName name).1

/-- What follows the last dot of the file name. -/
def extension? (p : Text) : Option Text :=
  (fileName? p).bind fun name => (cutName name).2

/-- Whether the file name has that extension. -/
def hasExtension (p ext : Text) : Bool :=
  extension? p == some ext

/-! ### New paths -/

/-- The path `p` seen from the directory `base`. -/
def join (base p : Text) : Text :=
  if isAbsolute p then p
  else if base.isEmpty || Text.endsWith base "/".toList then base ++ p
  else base ++ '/' :: p

/-- The path with another file name. -/
def withFileName (p name : Text) : Text :=
  match fileName? p, cut? p with
  | some _, some (before, _) => join before name
  | _, _ => join p name

/-- The file name of the changed copy of an archive. -/
def modifiedName (stem : Text) (ext : Option Text) : Text :=
  let stem := stem ++ "_modified".toList
  match ext with
  | some ext => stem ++ '.' :: ext
  | none => stem

/-- The path of the changed copy of an archive, in the same directory. -/
def modifiedArchive (archive : Text) : Except Error Text :=
  match stem? archive with
  | none => .error (.badPath archive)
  | some stem => .ok (withFileName archive (modifiedName stem (extension? archive)))

end Weaver.Path
