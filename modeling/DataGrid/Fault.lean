import DataGrid.Filter.Operator

/-!
# Faults

Why a request, a schema or a fetch is refused. A fault is a cause; its wording stands in one place,
and so does the answer that a web client gets for it.

## Main definitions

* `DataGrid.Fault` — the causes, with `message`.
* `DataGrid.Fault.isClient` — whether the request is to blame.
* `DataGrid.Fault.status`, `DataGrid.Fault.body` — the answer over HTTP.
-/

namespace DataGrid

/-! ## Causes -/

/-- What a name in a schema is used for. -/
inductive NameRole where
  | entity
  | table
  | primaryKey
  | softDelete
  | column
  | relation
  | localKey
  | foreignKey
deriving DecidableEq

/-- Why a schema is refused. -/
inductive SchemaFault where
  /-- A name that is no safe identifier. -/
  | unsafeName (role : NameRole) (name : String)
  | noPrimaryKey (entity column : String)
  | unknownTarget (entity relation target : String)
  | undeclaredLocalKey (entity relation key : String)
  | undeclaredForeignKey (entity relation target key : String)
  | stated (reason : String)
deriving DecidableEq

/-- Why a tag of a filter is refused. -/
inductive TagFault where
  | kind (tag : String)
  | junction (tag : String)
  | operator (kind : FilterKind) (tag : String)
  /-- A leaf of the given filter type has no operator. -/
  | missingOperator (filterType column : String)
  | stated (reason : String)
deriving DecidableEq

/-- A filter that a column cannot have. -/
inductive Unsupported where
  | setOnJson
  | dateOnDocument
  | stated (reason : String)
deriving DecidableEq

/-- The operands of a leaf filter. -/
inductive Operand where
  | filter
  | filterTo
  | dateFrom
  | dateTo
deriving DecidableEq

/-- Why a value is refused. -/
inductive ValueFault where
  | missing (operand : Operand)
  | notText
  | notNumber (operand : Operand)
  | notDate (operand : Operand) (raw : String)
  | notScalar
  | stated (reason : String)
deriving DecidableEq

/-- Why something is refused. -/
inductive Fault where
  /-- A column id that addresses nothing. -/
  | unknownColumn (id : String)
  | unknownTag (why : TagFault)
  | unsupported (column : String) (why : Unsupported)
  | invalidValue (column : String) (why : ValueFault)
  /-- A value listing without a column. -/
  | noListingColumn
  /-- A value listing on a column that may not be listed. -/
  | listingRefused (column : String)
  | unknownEntity (name : String)
  | schema (why : SchemaFault)
  /-- The store failed. -/
  | store
deriving DecidableEq

/-! ## Wording -/

/-- How the use of a name is called. -/
def NameRole.word : NameRole → String
  | .entity => "entity name"
  | .table => "table name"
  | .primaryKey => "primary key"
  | .softDelete => "soft delete column"
  | .column => "column name"
  | .relation => "relation name"
  | .localKey => "relation local key"
  | .foreignKey => "relation foreign key"

/-- The wording of a schema fault. -/
def SchemaFault.message : SchemaFault → String
  | .unsafeName role name => s!"unsafe {role.word}: '{name}'"
  | .noPrimaryKey entity column =>
    s!"entity '{entity}' does not declare its primary key column '{column}'"
  | .unknownTarget entity relation target =>
    s!"relation '{entity}.{relation}' targets unknown entity '{target}'"
  | .undeclaredLocalKey entity relation key =>
    s!"relation '{entity}.{relation}' uses undeclared local key '{key}'"
  | .undeclaredForeignKey entity relation target key =>
    s!"relation '{entity}.{relation}' uses undeclared foreign key '{target}.{key}'"
  | .stated reason => reason

/-- The wording of a tag fault. -/
def TagFault.message : TagFault → String
  | .kind tag => s!"filterType '{tag}'"
  | .junction tag => s!"combinator operator '{tag}'"
  | .operator k tag => s!"{k.tag} filter type '{tag}'"
  | .missingOperator filterType column => s!"{filterType} filter on column {column} has no type"
  | .stated reason => reason

/-- The wording of an unsupported filter. -/
def Unsupported.message : Unsupported → String
  | .setOnJson => "set filters cannot target JSON columns"
  | .dateOnDocument => "date filters need a scalar JSON key, not a whole document"
  | .stated reason => reason

/-- The name of an operand. -/
def Operand.word : Operand → String
  | .filter => "filter"
  | .filterTo => "filterTo"
  | .dateFrom => "dateFrom"
  | .dateTo => "dateTo"

/-- The wording of a value fault. -/
def ValueFault.message : ValueFault → String
  | .missing operand => s!"{operand.word} is required"
  | .notText => "filter must be a string"
  | .notNumber operand => s!"{operand.word} must be a number"
  | .notDate operand raw => s!"{operand.word} is not a date: {raw}"
  | .notScalar => "expected a scalar value"
  | .stated reason => reason

/-- The wording of a fault. -/
def Fault.message : Fault → String
  | .unknownColumn id => s!"invalid column reference: {id}"
  | .unknownTag why => s!"unknown filter type: {why.message}"
  | .unsupported column why => s!"unsupported filter operation on column {column}: {why.message}"
  | .invalidValue column why => s!"invalid filter value for column {column}: {why.message}"
  | .noListingColumn => "set values requested without a column"
  | .listingRefused column => s!"column is not allowed for set values: {column}"
  | .unknownEntity name => s!"unknown entity: {name}"
  | .schema why => s!"invalid schema: {why.message}"
  | .store => "database error"

/-! ## Classification -/

/-- Whether the fault stems from the request and not from the schema or the store. -/
def Fault.isClient : Fault → Bool
  | .schema _ => false
  | .store => false
  | _ => true

/-- The HTTP status of a fault. -/
def Fault.status : Fault → Nat
  | .listingRefused _ => 403
  | .unknownEntity _ => 404
  | .schema _ => 500
  | .store => 500
  | _ => 422

/-- The HTTP body of a fault: schema and store stay vague, the rest is echoed back. -/
def Fault.body (f : Fault) : String :=
  if f.isClient then f.message else "internal server error"

end DataGrid
