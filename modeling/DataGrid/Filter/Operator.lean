import DataGrid.Keyed
import DataGrid.Sql.Syntax

/-!
# Filter operators

The kinds of leaf filters, their operators, and the tags by which clients name them. Tags are
exact, except that AND and OR are read without regard to ASCII case.

## Main definitions

* `DataGrid.FilterKind`, `DataGrid.TextOperator`, `DataGrid.NumberOperator`,
  `DataGrid.DateOperator` — kinds and operators, each with a table of tags and its reader `ofTag?`.
* `DataGrid.Sql.Junction.ofTag?` — AND and OR.
-/

namespace DataGrid

/-! ## Kinds -/

/-- What a leaf filter compares. -/
inductive FilterKind where
  | set
  | text
  | number
  | date
deriving DecidableEq

/-- The tag of a kind. -/
def FilterKind.tag : FilterKind → String
  | .set => "set"
  | .text => "text"
  | .number => "number"
  | .date => "date"

/-- The kinds by their tags. -/
def FilterKind.tags : List (String × FilterKind) :=
  [("set", .set), ("text", .text), ("number", .number), ("date", .date)]

/-- The kind with the given tag. -/
abbrev FilterKind.ofTag? (tag : String) : Option FilterKind := Keyed.find? tag tags

/-- One ASCII letter in lower case; other characters stay. -/
def lowerAscii (c : Char) : Char :=
  if 'A' ≤ c ∧ c ≤ 'Z' then Char.ofNat (c.toNat + 32) else c

/-- AND and OR by their tags in lower case. -/
def Sql.Junction.tags : List (String × Sql.Junction) := [("and", .all), ("or", .any)]

/-- AND or OR, whatever the case of its ASCII letters. -/
def Sql.Junction.ofTag? (tag : String) : Option Sql.Junction :=
  Keyed.find? (String.ofList (tag.toList.map lowerAscii)) tags

/-! ## Operators -/

/-- Operators on text. -/
inductive TextOperator where
  | equals
  | notEqual
  | contains
  | notContains
  | startsWith
  | endsWith
  | blank
  | notBlank
deriving DecidableEq

/-- The text operators by their tags. -/
def TextOperator.tags : List (String × TextOperator) :=
  [("equals", .equals), ("notEqual", .notEqual), ("contains", .contains),
    ("notContains", .notContains), ("startsWith", .startsWith), ("endsWith", .endsWith),
    ("blank", .blank), ("notBlank", .notBlank)]

/-- The text operator with the given tag. -/
abbrev TextOperator.ofTag? (tag : String) : Option TextOperator := Keyed.find? tag tags

/-- Operators on numbers. -/
inductive NumberOperator where
  | equals
  | notEqual
  | greaterThan
  | greaterThanOrEqual
  | lessThan
  | lessThanOrEqual
  | inRange
  | blank
  | notBlank
deriving DecidableEq

/-- The number operators by their tags. -/
def NumberOperator.tags : List (String × NumberOperator) :=
  [("equals", .equals), ("notEqual", .notEqual), ("greaterThan", .greaterThan),
    ("greaterThanOrEqual", .greaterThanOrEqual), ("lessThan", .lessThan),
    ("lessThanOrEqual", .lessThanOrEqual), ("inRange", .inRange), ("blank", .blank),
    ("notBlank", .notBlank)]

/-- The number operator with the given tag. -/
abbrev NumberOperator.ofTag? (tag : String) : Option NumberOperator := Keyed.find? tag tags

/-- Operators on days. Greater and less include the day itself. -/
inductive DateOperator where
  | equals
  | notEqual
  | greaterThan
  | lessThan
  | inRange
  | blank
  | notBlank
deriving DecidableEq

/-- The date operators by their tags. -/
def DateOperator.tags : List (String × DateOperator) :=
  [("equals", .equals), ("notEqual", .notEqual), ("greaterThan", .greaterThan),
    ("lessThan", .lessThan), ("inRange", .inRange), ("blank", .blank), ("notBlank", .notBlank)]

/-- The date operator with the given tag. -/
abbrev DateOperator.ofTag? (tag : String) : Option DateOperator := Keyed.find? tag tags

end DataGrid
