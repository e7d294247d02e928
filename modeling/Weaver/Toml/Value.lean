import Weaver.Text.Basic

/-!
# TOML Values

Values of a TOML document. Tables remember how they came about, since that decides which
later lines may still add to them.

## Main definitions

* `Toml`, `TableOrigin`.
* `Toml.addEntry`: add a value under a dotted key.
* `Toml.openTable`, `Toml.openTableArray`: what a header does.
* `Toml.updateAt`: change the table that a header has opened.
-/

namespace Weaver

/-- How a table came about. -/
inductive TableOrigin where
  /-- Written between braces; nothing can be added. -/
  | inline
  /-- Opened by a header of its own. -/
  | header
  /-- Implied by the header of a table inside it. -/
  | implied
  /-- Implied by a dotted key. -/
  | dotted
deriving DecidableEq, Repr

/-- A value of a document. -/
inductive Toml where
  | string (s : Text)
  | boolean (b : Bool)
  /-- A number in its written form. -/
  | number (written : Text)
  /-- A date, a time or both in the written form. -/
  | datetime (written : Text)
  | array (items : List Toml)
  | table (origin : TableOrigin) (entries : List (Text × Toml))
  /-- The tables of one array, each opened by a header. -/
  | tableArray (items : List (List (Text × Toml)))

namespace Toml

/-- The entries of a table, by key. -/
abbrev Entries := List (Text × Toml)

/-- The value under a key. -/
def get? (entries : Entries) (key : Text) : Option Toml :=
  (entries.find? fun (k, _) => k == key).map Prod.snd

/-- Puts a value under a key. -/
def put (key : Text) (v : Toml) : Entries → Entries
  | [] => [(key, v)]
  | (k, w) :: rest => if k = key then (k, v) :: rest else (k, w) :: put key v rest

/-- Adds a value under a key that is still free. -/
def addNew? (key : Text) (v : Toml) (entries : Entries) : Option Entries :=
  if (get? entries key).isSome then none else some (entries ++ [(key, v)])

/-- The entries of a table that a dotted key may go through. If the key ends there, the
table must have come from dotted keys only. -/
def dottedEntries? (isLast : Bool) : Toml → Option Entries
  | table .dotted entries => some entries
  | table .implied entries => if isLast then none else some entries
  | tableArray items => if isLast then none else items.getLast?
  | _ => none

/-- A table with other entries; of an array of tables the last one changes. -/
def withEntries (entries : Entries) : Toml → Toml
  | table origin _ => table origin entries
  | tableArray items => tableArray (items.dropLast ++ [entries])
  | v => v

/-- Adds a value under a dotted key: `path` leads to the table and `key` is the last
part. -/
def addEntry? (key : Text) (v : Toml) : List Text → Entries → Option Entries
  | [], entries => addNew? key v entries
  | step :: path, entries =>
    match get? entries step with
    | none => do
      let inner ← addEntry? key v path []
      return entries ++ [(step, table .dotted inner)]
    | some t => do
      let inner ← dottedEntries? path.isEmpty t
      let inner ← addEntry? key v path inner
      return put step (t.withEntries inner) entries

/-! ### Headers -/

/-- The entries of a table that a header may go through. -/
def headerEntries? : Toml → Option Entries
  | table .inline _ => none
  | table _ entries => some entries
  | tableArray items => items.getLast?
  | _ => none

/-- Changes the entries of the table at the end of a path; tables on the way that are
missing are implied. -/
def updateAt? (change : Entries → Option Entries) : List Text → Entries → Option Entries
  | [], entries => change entries
  | step :: path, entries =>
    match get? entries step with
    | none => do
      let inner ← updateAt? change path []
      return entries ++ [(step, table .implied inner)]
    | some t => do
      let inner ← headerEntries? t
      let inner ← updateAt? change path inner
      return put step (t.withEntries inner) entries

/-- Opens the table of a header, which no other header may have opened. -/
def openTable? (path : List Text) (key : Text) (root : Entries) : Option Entries :=
  updateAt? (fun entries =>
    match get? entries key with
    | none => some (entries ++ [(key, table .header [])])
    | some (table .implied inner) => some (put key (table .header inner) entries)
    | some _ => none) path root

/-- Opens one more table of an array. -/
def openTableArray? (path : List Text) (key : Text) (root : Entries) : Option Entries :=
  updateAt? (fun entries =>
    match get? entries key with
    | none => some (entries ++ [(key, tableArray [[]])])
    | some (tableArray items) => some (put key (tableArray (items ++ [[]])) entries)
    | some _ => none) path root

end Toml

end Weaver
