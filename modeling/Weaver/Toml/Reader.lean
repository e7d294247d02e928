import Weaver.Toml.Scalar

/-!
# Reading TOML Documents

A document is a list of lines, each with a header, an entry or nothing but a comment.

## Main definitions

* `TomlReader.key`, `TomlReader.value`: keys and values.
* `Toml.read?`: the entries of a document.
-/

namespace Weaver

namespace TomlReader

/-- Values may be nested less than so deep, and keys may have fewer parts. -/
def maxDepth : Nat :=
  80

/-! ### Line ends and comments -/

/-- Takes a comment if one stands next. -/
def comment : TomlReader Unit := do
  if ← accept "#" then
    let _ ← takeWhile isPlain

/-- Takes the rest of a line that has nothing more to say. -/
def lineRest : TomlReader Unit := do
  skipBlanks
  comment
  if (← get).isEmpty then return ()
  else if ← acceptLineEnd then return ()
  else failure

/-- Passes over white space, line ends and comments; `fuel` bounds their number. -/
def skipLines : Nat → TomlReader Unit
  | 0 => return ()
  | fuel + 1 => do
    skipBlanks
    match ← peek? with
    | some '#' =>
      comment
      if ← acceptLineEnd then skipLines fuel else failure
    | some '\n' | some '\r' => if ← acceptLineEnd then skipLines fuel else failure
    | _ => return ()

/-! ### Keys -/

/-- Whether a character may stand in a key without quotes. -/
def isKeyChar (c : Char) : Bool :=
  c.isAlphanum || c == '_' || c == '-'

/-- Takes one part of a key. -/
def keyPart : TomlReader Text := do
  match ← peek? with
  | some '"' | some '\'' => lineString
  | _ =>
    let s ← takeWhile isKeyChar
    if s.isEmpty then failure
    return s

/-- Takes the parts of a key, with blanks around each; `fuel` bounds their number. -/
def keyParts : Nat → TomlReader (List Text)
  | 0 => failure
  | fuel + 1 => do
    skipBlanks
    let part ← keyPart
    skipBlanks
    if ← accept "." then return part :: (← keyParts fuel) else return [part]

/-- Takes a key: the parts before the last one, and the last one. -/
def key : TomlReader (List Text × Text) := do
  let parts ← keyParts (maxDepth - 1)
  return (parts.dropLast, parts.getLastD [])

/-! ### Values -/

/-- Takes the items of an array behind its bracket; `fuel` bounds their number. -/
def arrayItems (item : TomlReader Toml) : Nat → TomlReader (List Toml)
  | 0 => failure
  | fuel + 1 => do
    skipLines (← get).length
    if ← accept "]" then return []
    let v ← item
    skipLines (← get).length
    if ← accept "," then return v :: (← arrayItems item fuel)
    else
      expect "]"
      return [v]

/-- Takes an entry between braces or on a line. -/
def entry (item : TomlReader Toml) : TomlReader (List Text × Text × Toml) := do
  let (path, last) ← key
  expect "="
  skipBlanks
  return (path, last, ← item)

/-- Takes the entries of a table behind its brace, after those that have been read; `fuel`
bounds their number. -/
def tableEntries (item : TomlReader Toml) : Nat → Toml.Entries → TomlReader Toml.Entries
  | 0, _ => failure
  | fuel + 1, entries => do
    let (path, last, v) ← entry item
    let entries ← liftM (Toml.addEntry? last v path entries)
    skipBlanks
    if ← accept "," then tableEntries item fuel entries
    else
      expect "\x7d"
      return entries

/-- Takes a table behind its brace. -/
def inlineTable (item : TomlReader Toml) : TomlReader Toml := do
  skipBlanks
  if ← accept "\x7d" then return .table .inline []
  return .table .inline (← tableEntries item (← get).length [])

/-- Takes a truth value. -/
def boolean : TomlReader Toml := do
  if ← accept "true" then return .boolean true
  else
    expect "false"
    return .boolean false

/-- Takes an array or a table between braces, the items of which `item` takes. -/
def container (item : TomlReader Toml) : TomlReader Toml := do
  if ← accept "[" then return .array (← arrayItems item (← get).length)
  else
    expect "\x7b"
    inlineTable item

/-- Takes a value that is no array and no table. -/
def scalar : TomlReader Toml := do
  match ← peek? with
  | some '"' | some '\'' => return .string (← string)
  | some 't' | some 'f' => boolean
  | _ => either datetime number

/-- Takes a value with at most `depth` arrays and tables one in the other. -/
def value : Nat → TomlReader Toml
  | 0 => scalar
  | depth + 1 => do
    match ← peek? with
    | some '[' | some '\x7b' => container (value depth)
    | _ => scalar

/-! ### Documents -/

/-- What has been read of a document: all entries, and the path of the table that the last
header has opened. -/
structure DocumentRead where
  root : Toml.Entries
  current : List Text

/-- Takes a header. -/
def header (d : DocumentRead) : TomlReader DocumentRead := do
  let isArray ← accept "[["
  if !isArray then expect "["
  let (path, last) ← key
  expect (if isArray then "]]" else "]")
  lineRest
  let opened := if isArray then Toml.openTableArray? path last d.root
    else Toml.openTable? path last d.root
  return { root := ← liftM opened, current := path ++ [last] }

/-- Takes a line with an entry. -/
def entryLine (d : DocumentRead) : TomlReader DocumentRead := do
  let (path, last, v) ← entry (value (maxDepth - 1))
  lineRest
  return { d with root := ← liftM (Toml.updateAt? (Toml.addEntry? last v path) d.current d.root) }

/-- Takes all lines; `fuel` bounds their number. -/
def lines : Nat → DocumentRead → TomlReader DocumentRead
  | 0, _ => failure
  | fuel + 1, d => do
    skipBlanks
    match ← peek? with
    | none => return d
    | some '#' | some '\n' | some '\r' =>
      lineRest
      lines fuel d
    | some '[' => lines fuel (← header d)
    | some _ => lines fuel (← entryLine d)

end TomlReader

/-- The entries of a document. A byte order mark may stand in front. -/
def Toml.read? (s : Text) : Option Toml.Entries :=
  let body := (Text.stripPrefix? [Char.ofNat 0xFEFF] s).getD s
  ((TomlReader.lines (body.length + 1) { root := [], current := [] }).run body).map
    fun (d, _) => d.root

end Weaver
