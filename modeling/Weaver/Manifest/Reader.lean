import Weaver.Manifest.Basic
import Weaver.Markup.Tree

/-!
# Reading Manifests

Elements and attributes are recognised by their local names and unknown ones are passed
over. Elements of one kind may stand between others, but once the first of them has been
found no character data may follow, and all of them must have the same prefix.

## Main definitions

* `MarkupNode.isReadable`: whether all character data below a node can be resolved.
* `Tag.required?`: the value of an attribute that an element must have.
* `MarkupNode.groups?`: the children of an element by kind.
* `Manifest.read?`: the manifest in a document.
-/

namespace Weaver

/-! ### Attributes -/

/-- The name that an attribute is known by: those of the markup language itself keep their
prefix, all others lose it. -/
def Attribute.knownName (a : Attribute) : Text :=
  if a.name = "xmlns".toList ∨ Text.startsWith a.name "xmlns:".toList ∨
      Text.startsWith a.name "xml:".toList then a.name
  else a.localName

/-- The value of the attribute that is known by a name. There must be exactly one, and no
attribute of the tag may be malformed. -/
def Tag.required? (tag : Tag) (name : Text) : Option Text := do
  let attributes ← tag.soundAttributes?
  match attributes.filter fun a => a.knownName == name with
  | [a] => Markup.resolve? a.value
  | _ => none

/-! ### Children -/

namespace MarkupNode

mutual

/-- Whether the entities in all character data below a node are known. -/
def isReadable : MarkupNode → Bool
  | element _ children => areReadable children
  | text raw => (Markup.resolve? raw).isSome
  | cdata _ => true

/-- Whether the entities in all character data below some nodes are known. -/
def areReadable : List MarkupNode → Bool
  | [] => true
  | node :: nodes => isReadable node && areReadable nodes

end

/-- Whether a node is character data. -/
def isText : MarkupNode → Bool
  | element .. => false
  | _ => true

/-- Whether a node is an element with that name, prefix included. -/
def isNamed (name : Text) : MarkupNode → Bool
  | element tag _ => tag.name == name
  | _ => false

/-- The nodes that are not elements with that name. -/
def unnamed (name : Text) (nodes : List MarkupNode) : List MarkupNode :=
  nodes.filter fun node => !node.isNamed name

/-- Leaving out the children of a name makes no more of them. -/
theorem length_unnamed_le (name : Text) (nodes : List MarkupNode) :
    (unnamed name nodes).length ≤ nodes.length :=
  List.length_filter_le _ _

/-- Elements of one kind: the local name, and the elements. -/
abbrev Group := Text × List MarkupNode

/-- Groups children by kind. `kinds` are the local names of the kinds that have not been
found yet and `found` are the groups so far. With the first element of a kind, all later
ones of the same name are taken out. -/
def groupsFrom? (kinds : List Text) (found : List Group) :
    List MarkupNode → Option (List Group)
  | [] => some found
  | element tag children :: rest =>
    if tag.localName ∈ kinds then
      if rest.any isText || !areReadable (unnamed tag.name rest) then none
      else
        let same := rest.filter (isNamed tag.name)
        groupsFrom? (kinds.erase tag.localName)
          ((tag.localName, element tag children :: same) :: found) (unnamed tag.name rest)
    else if found.any fun (kind, _) => kind == tag.localName then none
    else groupsFrom? kinds found rest
  | node :: rest => if node.isReadable then groupsFrom? kinds found rest else none
termination_by nodes => nodes.length
decreasing_by
  · have := length_unnamed_le tag.name rest
    simp only [List.length_cons]
    omega
  · simp
  · simp

/-- The elements of some kinds among the children of an element. -/
def groups? (kinds : List Text) (children : List MarkupNode) : Option (Text → List MarkupNode) :=
  (groupsFrom? kinds [] children).map fun found kind =>
    ((found.find? fun (k, _) => k == kind).map Prod.snd).getD []

end MarkupNode

/-! ### Manifests -/

namespace Manifest

/-- The name of the attribute that names things. -/
def nameKey : Text :=
  "name".toList

/-- The name of the elements that filters are. -/
def filterKind : Text :=
  "intent-filter".toList

/-- Reads what an action or a category names. -/
def readName? : MarkupNode → Option Text
  | .element tag children => do
    let name ← tag.required? nameKey
    let _ ← MarkupNode.groups? [] children
    return name
  | _ => none

/-- Reads an intent filter. -/
def readFilter? : MarkupNode → Option IntentFilter
  | .element tag children => do
    let _ ← tag.soundAttributes?
    let group ← MarkupNode.groups? ["action".toList, "category".toList] children
    return { actions := ← (group "action".toList).mapM readName?
             categories := ← (group "category".toList).mapM readName? }
  | _ => none

/-- Reads the filters among children. -/
def readFilters? (children : List MarkupNode) : Option (List IntentFilter) := do
  let group ← MarkupNode.groups? [filterKind] children
  (group filterKind).mapM readFilter?

/-- Reads an activity. -/
def readActivity? : MarkupNode → Option Activity
  | .element tag children =>
    return { name := ← tag.required? nameKey, filters := ← readFilters? children }
  | _ => none

/-- Reads an alias. -/
def readAlias? : MarkupNode → Option ActivityAlias
  | .element tag children =>
    return { name := ← tag.required? nameKey, target := ← tag.required? "targetActivity".toList
             filters := ← readFilters? children }
  | _ => none

/-- Reads the activities and the aliases of an application. -/
def readApplication? : MarkupNode → Option (List Activity × List ActivityAlias)
  | .element tag children => do
    let _ ← tag.soundAttributes?
    let group ← MarkupNode.groups? ["activity".toList, "activity-alias".toList] children
    return (← (group "activity".toList).mapM readActivity?,
      ← (group "activity-alias".toList).mapM readAlias?)
  | _ => none

/-- The children that are applications. -/
def applications (children : List MarkupNode) : List MarkupNode :=
  children.filter fun
    | .element tag _ => tag.localName == "application".toList
    | _ => false

/-- Whether the character data among some nodes can be resolved. -/
def textsAreReadable (nodes : List MarkupNode) : Bool :=
  (nodes.filter MarkupNode.isText).all MarkupNode.isReadable

/-- Reads the manifest that an element is; its name does not matter. -/
def ofNode? : MarkupNode → Option Manifest
  | .element tag children => do
    let package ← tag.required? "package".toList
    if !textsAreReadable children then none
    else
      match applications children with
      | [] => return { package, activities := [], aliases := [] }
      | [application] =>
        let (activities, aliases) ← readApplication? application
        return { package, activities, aliases }
      | _ => none
  | _ => none

/-- Reads the manifest in a document. -/
def read? (s : Text) : Option Manifest :=
  (Markup.root? s).bind ofNode?

end Manifest

end Weaver
