import PolicyServer.Toml.Moment

/-! Documents of the settings format: values, and tables that may be opened in several places. -/

namespace PolicyServer.Toml

/-- How a table came to be: by its own heading, on the way to the heading of another, on the way to
a key with dots, or in braces. -/
inductive Origin where
  | heading
  | implied
  | dotted
  | inline
  deriving DecidableEq, Repr

/-- A value of a document. Floating-point numbers are kept as they are written. -/
inductive Value where
  | str (text : String)
  | int (n : Int)
  | float (text : String)
  | bool (b : Bool)
  | date (moment : Moment)
  | arr (items : List Value)
  | rows (tables : List Value)
  | table (origin : Origin) (entries : List (String × Value))
  deriving Inhabited, Repr

abbrev Entries := List (String × Value)

abbrev Tabular := Origin × Entries

namespace Entries

def get? (entries : Entries) (key : String) : Option Value := entries.lookup key

/-- Gives a key a value; a new key comes last. -/
def set (entries : Entries) (key : String) (value : Value) : Entries :=
  if (entries.lookup key).isSome then
    entries.map fun (k, v) => if k = key then (k, value) else (k, v)
  else entries ++ [(key, value)]

end Entries

/-- Changes the last of the rows. -/
def changeLast (change : Value → Option Value) : List Value → Option (List Value)
  | [] => none
  | [row] => (change row).map ([·])
  | row :: rest => (changeLast change rest).map (row :: ·)

def onTable (change : Tabular → Option Tabular) : Value → Option Value
  | .table origin entries => (change (origin, entries)).map fun (o, e) => .table o e
  | _ => none

/-- Changes the table at the end of a path whose tables are all there. -/
def within (change : Tabular → Option Tabular) : List String → Tabular → Option Tabular
  | [], table => change table
  | key :: path, (origin, entries) => do
    let child ← entries.get? key
    let child ← match child with
      | .rows tables => (changeLast (onTable (within change path)) tables).map .rows
      | other => onTable (within change path) other
    some (origin, Entries.set entries key child)

/-- Changes the table at the end of a path, whose missing tables are made. A heading may pass
through what other headings made, a dotted key through no table that has a heading of its own. -/
def reach (dotted : Bool) (change : Tabular → Option Tabular) :
    List String → Tabular → Option Tabular
  | [], table => change table
  | key :: path, (origin, entries) => do
    let child ← match entries.get? key with
      | none =>
        onTable (reach dotted change path) (.table (if dotted then .dotted else .implied) [])
      | some (.rows tables) => (changeLast (onTable (reach dotted change path)) tables).map .rows
      | some (.table origin child) =>
        if origin = .inline ∨ dotted ∧ origin = .heading then none
        else onTable (reach dotted change path) (.table origin child)
      | some _ => none
    some (origin, Entries.set entries key child)

/-- Adds a new key to a table. A dotted key, whose path is not empty, adds only to a table that has
no heading of its own. -/
def addKey (path : List String) (key : String) (value : Value) : Tabular → Option Tabular
  | (origin, entries) =>
    if (path ≠ [] ∧ origin ≠ .dotted ∧ origin ≠ .implied) ∨ (entries.get? key).isSome then none
    else some (origin, Entries.set entries key value)

/-- Opens a table under a heading of its own. -/
def openTable (key : String) : Tabular → Option Tabular
  | (origin, entries) =>
    match entries.get? key with
    | none => some (origin, Entries.set entries key (.table .heading []))
    | some (.table .implied child) =>
      some (origin, Entries.set entries key (.table .heading child))
    | some _ => none

def openRow (key : String) : Tabular → Option Tabular
  | (origin, entries) =>
    match entries.get? key with
    | none => some (origin, Entries.set entries key (.rows [.table .heading []]))
    | some (.rows tables) =>
      some (origin, Entries.set entries key (.rows (tables ++ [.table .heading []])))
    | some _ => none

end PolicyServer.Toml
