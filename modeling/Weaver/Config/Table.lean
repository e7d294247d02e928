import Weaver.Error
import Weaver.Toml.Reader

/-!
# Configuration Files

A configuration is a TOML document. Its tables are looked into key by key, and a value of
the wrong type is reported under the dotted name of its key.

## Main definitions

* `Config`, `Config.read`: a document and the path of its file.
* `ConfigTable`: one table, with the keys that lead to it.
* `ConfigTable.string`, `ConfigTable.bool`, `ConfigTable.table`: typed values.
-/

namespace Weaver

/-- A configuration that has been read from a file. -/
structure Config where
  path : Text
  entries : Toml.Entries

/-- Reads the text of a configuration file. -/
def Config.read (path s : Text) : Except Error Config :=
  match Toml.read? s with
  | some entries => .ok { path, entries }
  | none => .error (.invalidConfig path .malformed)

/-- One table of a configuration. -/
structure ConfigTable where
  /-- The path of the file. -/
  path : Text
  /-- The keys that lead to the table, from the outermost. -/
  keys : List Text
  entries : Toml.Entries

/-- The outermost table. -/
def Config.table (c : Config) : ConfigTable :=
  { path := c.path, keys := [], entries := c.entries }

/-- A value is there and has another type than the one asked for. -/
inductive WrongType where
  | wrongType
deriving DecidableEq, Repr

namespace ConfigTable

/-- The name of a key from the outermost table on. -/
def dottedKey (t : ConfigTable) (key : Text) : Text :=
  Text.join ".".toList (t.keys ++ [key])

/-- A key has another value than the one expected. -/
def badValue (t : ConfigTable) (key expected : Text) : Error :=
  .invalidConfig t.path (.badValue (t.dottedKey key) expected)

/-- Whether there is a value of any type. -/
def has (t : ConfigTable) (key : Text) : Bool :=
  (Toml.get? t.entries key).isSome

/-- The value under a key, as far as `view` takes it. -/
def view {α : Type} (t : ConfigTable) (view : Toml → Option α) (key : Text) :
    Except WrongType (Option α) :=
  match Toml.get? t.entries key with
  | none => .ok none
  | some v =>
    match view v with
    | some a => .ok (some a)
    | none => .error .wrongType

/-- The string under a key. -/
def string (t : ConfigTable) : Text → Except WrongType (Option Text) :=
  t.view fun
    | .string s => some s
    | _ => none

/-- The truth value under a key. -/
def bool (t : ConfigTable) : Text → Except WrongType (Option Bool) :=
  t.view fun
    | .boolean b => some b
    | _ => none

/-- The table under a key. -/
def table (t : ConfigTable) (key : Text) : Except WrongType (Option ConfigTable) :=
  t.view (fun
    | .table _ entries => some { path := t.path, keys := t.keys ++ [key], entries }
    | _ => none) key

/-- Reports a value of the wrong type. -/
def checked {α : Type} (t : ConfigTable) (key expected : Text) (r : Except WrongType α) :
    Except Error α :=
  r.mapError fun _ => t.badValue key expected

/-- The string under a key; a value of another type is reported. -/
def checkedString (t : ConfigTable) (key : Text) : Except Error (Option Text) :=
  t.checked key "string".toList (t.string key)

/-- The truth value under a key; a value of another type is reported. -/
def checkedBool (t : ConfigTable) (key : Text) : Except Error (Option Bool) :=
  t.checked key "bool".toList (t.bool key)

/-- The table under a key; a value of another type is reported. -/
def checkedTable (t : ConfigTable) (key : Text) : Except Error (Option ConfigTable) :=
  t.checked key "table".toList (t.table key)

end ConfigTable

end Weaver
