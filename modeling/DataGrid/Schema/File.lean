import DataGrid.Schema.Document

/-!
# Schema files

Loading a schema from a file. The format follows from the ending of the file's name, and the file
may not be larger than a megabyte.

## Main definitions

* `DataGrid.FileView` — what is found at a path.
* `DataGrid.SchemaFormat.ofPath?` — the format of a file.
* `DataGrid.loadSchema` — the registry of a file.
-/

namespace DataGrid

/-! ## Files -/

/-- What is found at a path. -/
inductive FileView where
  | missing
  | directory
  | file (content : ByteArray)

namespace FileView

/-- The number of bytes; a directory has none of its own. -/
def size : FileView → Nat
  | .file content => content.size
  | _ => 0

/-- The text of a file, if it is one in UTF-8. -/
def text? : FileView → Option String
  | .file content => String.fromUTF8? content
  | _ => none

end FileView

/-! ## Formats -/

/-- A segment of a path that stays where it is. -/
def isIdle (segment : String) : Bool := segment == "" || segment == "."

/-- The segments of a path that lead somewhere else. -/
def pathSteps (path : String) : List String :=
  (Text.segments '/' path).filter fun segment => !isIdle segment

/-- The name at the end of a path. -/
def fileName? (path : String) : Option String :=
  match (pathSteps path).getLast? with
  | some ".." => none
  | name => name

/-- The ending of a name: what comes behind its last dot, if anything is in front of the dot. -/
def ending? (name : String) : Option String :=
  match (Text.segments '.' name).reverse with
  | ending :: stem :: more => if more.isEmpty && stem.isEmpty then none else some ending
  | _ => none

/-- The format of a file, by the ending of its name. -/
def SchemaFormat.ofPath? (path : String) : Option SchemaFormat :=
  match (fileName? path).bind ending? with
  | some "yml" => some .yaml
  | some "yaml" => some .yaml
  | some "toml" => some .toml
  | _ => none

/-! ## Loading -/

/-- Why a schema file is refused. -/
inductive LoadFault where
  | unknownEnding (path : String)
  | missing (path : String)
  | tooLarge (path : String)
  | unreadable (path : String)
  | document (path : String) (why : DocumentFault)
deriving DecidableEq

/-- The largest size of a schema file, in bytes. -/
def maxSchemaSize : Nat := 1048576

/-- The wording of a fault, from the outside in. -/
def LoadFault.chain : LoadFault → List String
  | .unknownEnding path =>
    ["unsupported schema file extension: " ++ path ++ " (expected .yml, .yaml or .toml)"]
  | .missing path => ["failed to stat schema file " ++ path]
  | .tooLarge path => [s!"schema file {path} exceeds {maxSchemaSize} bytes"]
  | .unreadable path => ["failed to read schema file " ++ path]
  | .document path why => ("failed to load schema " ++ path) :: why.chain

/-- The registry of what is found at a path. -/
def loadSchema (path : String) (found : FileView) : Except LoadFault Registry :=
  match SchemaFormat.ofPath? path, found with
  | none, _ => .error (.unknownEnding path)
  | some _, .missing => .error (.missing path)
  | some format, found =>
    if found.size > maxSchemaSize then .error (.tooLarge path)
    else
      match found.text? with
      | none => .error (.unreadable path)
      | some text => (format.readRegistry text).mapError (.document path)

end DataGrid
