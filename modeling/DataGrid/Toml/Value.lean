import DataGrid.Keyed

/-!
# Values of TOML

The tree of a TOML document, and how its statements build it up. A table can be opened once by a
header and can grow by dotted keys only as long as nothing else has defined it.

## Main definitions

* `DataGrid.Toml.Value` — the values.
* `DataGrid.Toml.put?` — a value under a dotted key.
* `DataGrid.Toml.descend?` — a change of the table that a path leads to.
* `DataGrid.Toml.openTable?`, `DataGrid.Toml.openElement?` — the two kinds of headers.
-/

namespace DataGrid.Toml

/-- What brought a table into being. -/
inductive Origin where
  /-- A header with its own path. -/
  | header
  /-- The header of a table further inside. -/
  | implied
  /-- A dotted key. -/
  | dotted
deriving DecidableEq

/-- A value. -/
inductive Value where
  | text (s : String)
  /-- A number, truth value, day or time. -/
  | scalar
  | array (items : List Value)
  /-- A table written in one piece; nothing can be added to it. -/
  | inlineTable (members : List (String × Value))
  | table (origin : Origin) (members : List (String × Value))
  /-- The tables of an array that grows by headers, the last one first. -/
  | elements (tables : List (List (String × Value)))

/-- The members of a table. -/
abbrev Members := List (String × Value)

/-- Put a value under a new key of the table that a dotted key leads to. Tables on the way come into
being; those that a header has opened cannot be entered. `ours` says that the value may be put
right here: in the table of the statement itself, or in a table made by dotted keys. -/
def put? (ours : Bool) (key : String) (v : Value) : List String → Members → Option Members
  | [], members =>
    if ours && (Keyed.find? key members).isNone then some (Keyed.insert key v members) else none
  | step :: path, members =>
    match Keyed.find? step members with
    | none => (put? true key v path []).map fun inner =>
      Keyed.insert step (.table .dotted inner) members
    | some (.table .header _) => none
    | some (.table origin inner) => (put? (origin = .dotted) key v path inner).map fun inner =>
      Keyed.insert step (.table origin inner) members
    | some (.elements (last :: before)) => (put? false key v path last).map fun inner =>
      Keyed.insert step (.elements (inner :: before)) members
    | some _ => none

/-- Change the table that the path of a header leads to. Tables on the way come into being; of an
array of tables the last one is meant. -/
def descend? (change : Members → Option Members) : List String → Members → Option Members
  | [], members => change members
  | step :: path, members =>
    match Keyed.find? step members with
    | none => (descend? change path []).map fun inner =>
      Keyed.insert step (.table .implied inner) members
    | some (.table origin inner) => (descend? change path inner).map fun inner =>
      Keyed.insert step (.table origin inner) members
    | some (.elements (last :: before)) => (descend? change path last).map fun inner =>
      Keyed.insert step (.elements (inner :: before)) members
    | some _ => none

/-- Open a table: a new one, or one that is only implied so far. -/
def openTable? (key : String) (members : Members) : Option Members :=
  match Keyed.find? key members with
  | none => some (Keyed.insert key (.table .header []) members)
  | some (.table .implied inner) => some (Keyed.insert key (.table .header inner) members)
  | some _ => none

/-- Open a new table at the end of an array of tables. -/
def openElement? (key : String) (members : Members) : Option Members :=
  match Keyed.find? key members with
  | none => some (Keyed.insert key (.elements [[]]) members)
  | some (.elements tables) => some (Keyed.insert key (.elements ([] :: tables)) members)
  | some _ => none

end DataGrid.Toml
