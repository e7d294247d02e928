import Weaver.Markup.Attribute
import Weaver.Markup.Entity

/-!
# Elements

Tags that match make elements, and elements are nested.

## Main definitions

* `Markup.openings?`: the opening tags of a document whose closing tags match.
* `MarkupNode`, `Markup.root?`: the outermost element of a document.
-/

namespace Weaver

/-- An element, or character data in an element. -/
inductive MarkupNode where
  | element (tag : Tag) (children : List MarkupNode)
  /-- Character data as it is written, with something else than white space in it. -/
  | text (raw : Text)
  | cdata (s : Text)

namespace Markup

/-! ### Opening tags -/

/-- The opening tags among pieces if every closing tag closes the element that was opened
last; `open_` has the names of the open elements, which need not be closed. -/
def openingsFrom? : List Text → List MarkupPiece → Option (List Tag)
  | _, [] => some []
  | open_, .opening tag :: rest => (openingsFrom? (tag.name :: open_) rest).map (tag :: ·)
  | open_, .empty tag :: rest => (openingsFrom? open_ rest).map (tag :: ·)
  | name :: open_, .closing closed :: rest =>
    if closed = name then openingsFrom? open_ rest else none
  | [], .closing _ :: _ => none
  | open_, _ :: rest => openingsFrom? open_ rest

/-- The opening tags of a document whose pieces are well-formed and whose closing tags
match; elements may stay open. -/
def openings? (s : Text) : Option (List Tag) :=
  let (pieces, complete) := pieces s
  if complete then openingsFrom? [] pieces else none

/-! ### The outermost element -/

/-- An element that is not closed yet, with its children so far in reverse. -/
structure OpenElement where
  tag : Tag
  children : List MarkupNode

/-- Adds a child. -/
def OpenElement.add (e : OpenElement) (child : MarkupNode) : OpenElement :=
  { e with children := child :: e.children }

/-- The element when it is closed. -/
def OpenElement.closed (e : OpenElement) : MarkupNode :=
  .element e.tag e.children.reverse

/-- Reads the pieces behind the opening tag of `current`, which is inside the elements
`outer`, until the outermost one is closed. What follows it is not looked at. -/
def readElement? (outer : List OpenElement) (current : OpenElement) :
    List MarkupPiece → Option MarkupNode
  | [] => none
  | .opening tag :: rest => readElement? (current :: outer) { tag, children := [] } rest
  | .empty tag :: rest => readElement? outer (current.add (.element tag [])) rest
  | .closing name :: rest =>
    if name ≠ current.tag.name then none
    else
      match outer with
      | [] => some current.closed
      | parent :: outer => readElement? outer (parent.add current.closed) rest
  | .text raw :: rest =>
    readElement? outer (if raw.all isSpace then current else current.add (.text raw)) rest
  | .cdata s :: rest => readElement? outer (current.add (.cdata s)) rest
  | .remark :: rest => readElement? outer current rest

/-- The outermost element of a document; nothing but white space and remarks may stand
before it. -/
def rootFrom? : List MarkupPiece → Option MarkupNode
  | .opening tag :: rest => readElement? [] { tag, children := [] } rest
  | .empty tag :: _ => some (.element tag [])
  | .text raw :: rest => if raw.all isSpace then rootFrom? rest else none
  | .remark :: rest => rootFrom? rest
  | _ => none

/-- The outermost element of a document. -/
def root? (s : Text) : Option MarkupNode :=
  rootFrom? (pieces s).1

end Markup

end Weaver
