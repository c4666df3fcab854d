import DataGrid.Json.Basic

/-!
# Records in JSON

A record is written as an object with named fields, or as an array of its fields in order. Fields
that the record does not have are ignored; a repeated field is an error.

## Main definitions

* `DataGrid.Json.fields?` — the fields of a record that are present.
* `DataGrid.Json.required`, `DataGrid.Json.optional`, `DataGrid.Json.orNull`,
  `DataGrid.Json.orAbsent` — how a single field is read.
* `DataGrid.Json.tagged?` — a value that is one of a list of words.
-/

namespace DataGrid.Json

/-- No name of the list is the key of two members. -/
def distinctFields (names : List String) (members : List (String × Json)) : Bool :=
  names.all fun name => (members.filter fun m => m.1 == name).length ≤ 1

/-- The fields of a record that are present, by name. -/
def fields? (names : List String) : Json → Option (List (String × Json))
  | .object members =>
    if distinctFields names members then some (members.filter fun m => names.contains m.1)
    else none
  | .array items => if items.length ≤ names.length then some (names.zip items) else none
  | _ => none

variable {α : Type}

/-- A field that must be present. -/
def required (read : Json → Option α) (name : String) (fields : List (String × Json)) :
    Option α :=
  (Keyed.find? name fields).bind read

/-- A field that may be absent or null. -/
def optional (read : Json → Option α) (name : String) (fields : List (String × Json)) :
    Option (Option α) :=
  match Keyed.find? name fields with
  | none => some none
  | some .null => some none
  | some j => (read j).map some

/-- A field that has a default when it is absent or null. -/
def orNull (default : α) (read : Json → Option α) (name : String)
    (fields : List (String × Json)) : Option α :=
  match Keyed.find? name fields with
  | none => some default
  | some .null => some default
  | some j => read j

/-- A field that has a default when it is absent; null is a value like any other. -/
def orAbsent (default : α) (read : Json → Option α) (name : String)
    (fields : List (String × Json)) : Option α :=
  match Keyed.find? name fields with
  | none => some default
  | some j => read j

/-- One of a list of words: the word itself, or an object with the word as its only key and null
as value. -/
def tagged? (ofTag? : String → Option α) : Json → Option α
  | .string tag => ofTag? tag
  | .object [(tag, .null)] => ofTag? tag
  | _ => none

/-- A list of values that are all readable. -/
def listOf? (read : Json → Option α) : Json → Option (List α)
  | .array items => items.mapM read
  | _ => none

end DataGrid.Json
