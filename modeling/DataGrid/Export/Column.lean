import DataGrid.Json.Basic
import DataGrid.Text.Quoted
import DataGrid.Text.Segment

/-!
# Export columns

The columns of an exported file: where a cell gets its value from, and how the value is formatted.

## Main definitions

* `DataGrid.ExportColumn` — a column with `resolve` and `render`.
* `DataGrid.Formatter`, `DataGrid.Formatter.Context` — formatting of values.
* `DataGrid.Formatter.upper`, `DataGrid.Formatter.located`, `DataGrid.rowKeys` — ready-made ones.
-/

namespace DataGrid

/-! ## Formatters -/

/-- Where an export is read. -/
structure Formatter.Context where
  locale : String
  timezone : Option String

/-- A formatter of cell values. -/
structure Formatter where
  format : Formatter.Context → Json → Json
  /-- The number format of the column in a spreadsheet. -/
  sheetFormat : Option String

/-- One ASCII letter in upper case; other characters stay. -/
def upperAscii (c : Char) : Char :=
  if 'a' ≤ c ∧ c ≤ 'z' then Char.ofNat (c.toNat - 32) else c

namespace Formatter

/-- Strings in ASCII upper case. -/
def upper : Formatter where
  format _ j :=
    match j with
    | .string s => .string (String.ofList (s.toList.map upperAscii))
    | other => other
  sheetFormat := none

/-- The value together with the place it is read at, as text of a spreadsheet. -/
def located : Formatter where
  format context j :=
    .object [("locale", .string context.locale),
      ("timezone", (context.timezone.map Json.string).getD .null), ("value", j)]
  sheetFormat := some "@"

end Formatter

/-- The keys of a row that is an object, and null for any other row. -/
def rowKeys : Json → Json
  | .object members => .array ((Keyed.keys members).map .string)
  | _ => .null

/-! ## Columns -/

/-- A column of an export. -/
structure ExportColumn where
  /-- The column id in a row, possibly dotted. -/
  field : String
  header : String
  formatter : Option Formatter := none
  /-- Derives the cell from the whole row, in place of the field. -/
  resolver : Option (Json → Json) := none

namespace ExportColumn

/-- The value at the end of a path of member names. -/
def follow? (row : Json) : List String → Option Json
  | [] => some row
  | key :: keys => (row.get? key).bind fun j => follow? j keys

/-- The raw value of a cell; null when the row has none. -/
def resolve (c : ExportColumn) (row : Json) : Json :=
  match c.resolver with
  | some derive => derive row
  | none => (follow? row (Text.segments '.' c.field)).getD .null

/-- The value of a cell after formatting. -/
def render (c : ExportColumn) (context : Formatter.Context) (row : Json) : Json :=
  match c.formatter with
  | some f => f.format context (c.resolve row)
  | none => c.resolve row

/-- The number format of the column in a spreadsheet. -/
def sheetFormat? (c : ExportColumn) : Option String := c.formatter.bind Formatter.sheetFormat

/-- A truth value in a description. -/
def flagText (b : Bool) : String := if b then "true" else "false"

/-- The description of a column. -/
def describe (c : ExportColumn) : String :=
  "ColumnDefinition \x7b field: " ++ Text.quoted c.field ++ ", header: " ++
    Text.quoted c.header ++ ", formatter: " ++ flagText c.formatter.isSome ++
    ", value_resolver: " ++ flagText c.resolver.isSome ++ " \x7d"

end ExportColumn

end DataGrid
