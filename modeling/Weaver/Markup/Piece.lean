import Weaver.Text.Basic

/-!
# Pieces of Marked-Up Texts

A marked-up text (XML) is cut into pieces: tags, character data and the remarks between
them. Only the form of each piece is looked at here, not how tags match.

## Main definitions

* `Tag`, `MarkupPiece`.
* `MarkupPiece.cut?`: the first piece of a text.
* `Markup.pieces`: all pieces of a text, up to the first one that is malformed.
-/

namespace Weaver

/-- An opening tag. -/
structure Tag where
  /-- The name with its namespace. -/
  name : Text
  /-- What follows the name, as it is written. -/
  rest : Text
deriving DecidableEq, Repr

/-- A piece of a marked-up text. -/
inductive MarkupPiece where
  | opening (tag : Tag)
  /-- A tag that opens an element and closes it at once. -/
  | empty (tag : Tag)
  | closing (name : Text)
  /-- Character data as it is written. -/
  | text (raw : Text)
  /-- Character data in which nothing has a special meaning. -/
  | cdata (s : Text)
  /-- Comments, instructions and declarations. -/
  | remark
deriving DecidableEq, Repr

namespace Markup

/-! ### White space -/

/-- Whether a character counts as white space in markup. -/
def isSpace (c : Char) : Bool :=
  c == ' ' || c == '\t' || c == '\n' || c == '\r'

/-- A text without the white space it ends with. -/
def trimEnd (s : Text) : Text :=
  (s.reverse.dropWhile isSpace).reverse

/-! ### Tags -/

/-- The quote that is open after a character. -/
def quoteAfter (open? : Option Char) (c : Char) : Option Char :=
  match open? with
  | some q => if c = q then none else some q
  | none => if c = '"' ∨ c = '\'' then some c else none

/-- Cuts a text at the angle bracket that closes a tag; those between quotes do not. -/
def cutTag? : Option Char → Text → Option (Text × Text)
  | _, [] => none
  | open?, c :: s =>
    if open? = none ∧ c = '>' then some ([], s)
    else (cutTag? (quoteAfter open? c) s).map fun (inside, rest) => (c :: inside, rest)

/-- The tag that stands between angle brackets. -/
def tagOf (inside : Text) : Tag where
  name := inside.takeWhile fun c => !isSpace c
  rest := inside.dropWhile fun c => !isSpace c

/-- The piece that an opening tag is; a slash at its end closes the element. -/
def openingOf (inside : Text) : MarkupPiece :=
  match Text.stripSuffix? ['/'] inside with
  | some inside => .empty (tagOf inside)
  | none => .opening (tagOf inside)

/-- The name in a closing tag; white space behind it does not count. -/
def closingName (inside : Text) : Text :=
  if inside.all isSpace then inside else trimEnd inside

/-! ### Remarks -/

/-- Cuts a text at the angle bracket that closes a declaration of the document type, which
may have brackets inside. -/
def cutDeclaration? : Nat → Text → Option (Text × Text)
  | _, [] => none
  | depth, '<' :: s => (cutDeclaration? (depth + 1) s).map fun (a, b) => ('<' :: a, b)
  | 0, '>' :: s => some ([], s)
  | depth + 1, '>' :: s => (cutDeclaration? depth s).map fun (a, b) => ('>' :: a, b)
  | depth, c :: s => (cutDeclaration? depth s).map fun (a, b) => (c :: a, b)

/-- Whether a declaration of the document type has a name in it. -/
def declares (inside : Text) : Bool :=
  (inside.take 7).map Char.toUpper == "DOCTYPE".toList && (inside.drop 7).any fun c => !isSpace c

/-- The piece that an exclamation mark begins. -/
def cutMarked? (s : Text) : Option (MarkupPiece × Text) :=
  match Text.stripPrefix? "--".toList s with
  | some s => (Text.cutAt? "-->".toList s).map fun (_, rest) => (.remark, rest)
  | none =>
    match Text.stripPrefix? "[CDATA[".toList s with
    | some s => (Text.cutAt? "]]>".toList s).map fun (inside, rest) => (.cdata inside, rest)
    | none =>
      match cutDeclaration? 0 s with
      | some (inside, rest) => if declares inside then some (.remark, rest) else none
      | none => none

/-- The piece that a question mark begins. -/
def cutInstruction? (s : Text) : Option (MarkupPiece × Text) :=
  (Text.cutAt? "?>".toList s).map fun (_, rest) => (.remark, rest)

/-! ### All pieces -/

/-- The piece behind an angle bracket. -/
def cutAngle? : Text → Option (MarkupPiece × Text)
  | [] => none
  | '!' :: s => cutMarked? s
  | '?' :: s => cutInstruction? s
  | '/' :: s => (cutTag? none s).map fun (inside, rest) => (.closing (closingName inside), rest)
  | s => (cutTag? none s).map fun (inside, rest) => (openingOf inside, rest)

/-- The first piece of a text that is not empty, and what follows it. -/
def cutPiece? : Text → Option (MarkupPiece × Text)
  | '<' :: s => cutAngle? s
  | s => some (.text (s.takeWhile (· != '<')), s.dropWhile (· != '<'))

/-- The pieces of a text up to the first malformed one, and whether there is none such;
`fuel` bounds their number. -/
def piecesFrom : Nat → Text → List MarkupPiece × Bool
  | 0, s => ([], s.isEmpty)
  | fuel + 1, s =>
    if s.isEmpty then ([], true)
    else
      match cutPiece? s with
      | none => ([], false)
      | some (piece, rest) =>
        let (pieces, complete) := piecesFrom fuel rest
        (piece :: pieces, complete)

/-- A text without the mark of its byte order. -/
def dropByteOrderMark : Text → Text
  | '\ufeff' :: s => s
  | s => s

/-- The pieces of a text up to the first malformed one, and whether there is none such. -/
def pieces (s : Text) : List MarkupPiece × Bool :=
  piecesFrom (s.length + 1) (dropByteOrderMark s)

end Markup

end Weaver
