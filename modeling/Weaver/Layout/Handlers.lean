import Weaver.Files.Disk
import Weaver.Markup.Tree
import Weaver.Pass.Lifecycle

/-!
# Click Handlers of Layouts

The resources of an unpacked application list its layouts, and elements of a layout name
the methods that are called on a click.

## Main definitions

* `clickHandler`: the signature of the handler of a name.
* `Layout.publicNames?`, `Layout.clickNames?`: what documents say.
* `Layout.names`, `Layout.handlers`: what the files below a directory say.
-/

namespace Weaver

/-- The signature of the click handler of a name. -/
def clickHandler (name : Text) : Signature :=
  { ret := .void, name, params := [.class_ "android.view.View".toList] }

namespace Layout

/-! ### Documents -/

/-- The value of the first attribute with a local name. -/
def localValue? (tag : Tag) (name : Text) : Option Text :=
  tag.attribute? fun a => a.localName == name

/-- The layout that an element of a resource table declares. -/
def declaredLayout? (tag : Tag) : Option Text :=
  if tag.localName = "public".toList ∧ localValue? tag "type".toList = some "layout".toList then
    localValue? tag "name".toList
  else none

/-- The layouts that a resource table declares. -/
def publicNames? (s : Text) : Option (List Text) :=
  (Markup.openings? s).map fun tags => tags.filterMap declaredLayout?

/-- The method that is called on a click on an element. Expressions that bind data are no
names. -/
def clickName? (tag : Tag) : Option Text :=
  (tag.attribute? fun a => a.name == "android:onClick".toList).filter fun value =>
    !Text.startsWith value ('@' :: openingBrace)

/-- The methods that are called on clicks on the elements of a layout. -/
def clickNames? (s : Text) : Option (List Text) :=
  (Markup.openings? s).map fun tags => tags.filterMap clickName?

/-! ### Files -/

/-- The wording for documents that are malformed. -/
def malformed : Text :=
  "syntax error".toList

/-- Reads what the document in a file says. A directory can be opened but has no
document. -/
def readDocument (d : Disk) (path : Text) (read? : Text → Option (List Text)) :
    Except LayoutFault (List Text) :=
  match d.read path with
  | .error .isDirectory => .error (.markup path IoFault.isDirectory.message)
  | .error fault => .error (.io path fault.message)
  | .ok (.archive _) => .error (.markup path malformed)
  | .ok (.data data) =>
    match read? data.lossyText with
    | some names => .ok names
    | none => .error (.markup path malformed)

/-- The methods that are called on clicks on the elements of the layout in a file. -/
def clickNames (d : Disk) (path : Text) : Except LayoutFault (List Text) :=
  readDocument d path clickNames?

/-- The directory of the resources of an unpacked application. -/
def resourceDir (decoded : Text) : Text :=
  Path.join decoded "res".toList

/-- The names in the directory that a path leads to. -/
def namesIn (d : Disk) (path : Text) : List Text :=
  match d.locate path with
  | .ok place => d.childNames place
  | .error _ => []

/-- The resource tables of an unpacked application, in order. -/
def tables (d : Disk) (decoded : Text) : List Text :=
  let res := resourceDir decoded
  let dirs := (namesIn d res).filter fun name => Text.startsWith name "values".toList
  let files := dirs.map fun name => Path.join (Path.join res name) "public.xml".toList
  files.filter d.isFile

/-- The layouts of an unpacked application, in order. -/
def names (d : Disk) (decoded : Text) : Except LayoutFault (List Text) :=
  if !d.isDir (resourceDir decoded) then .error (.noResources (resourceDir decoded))
  else do
    let found ← (tables d decoded).mapM fun path => readDocument d path publicNames?
    return sortedOfList Text.compare found.flatten

/-- The file of a layout. -/
def file (decoded name : Text) : Text :=
  Path.join (Path.join (resourceDir decoded) "layout".toList) (name ++ ".xml".toList)

/-- The click handlers of an unpacked application, in order. -/
def handlers (d : Disk) (decoded : Text) : HandlerSource := do
  let files := ((← names d decoded).map (file decoded)).filter d.isFile
  let found ← files.mapM (clickNames d)
  return .ofList (found.flatten.map clickHandler)

end Layout

end Weaver
