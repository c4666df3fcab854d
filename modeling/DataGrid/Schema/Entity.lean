import DataGrid.Fault

/-!
# Entities

What a grid request may address: the tables, their columns, and the relations that lead from one
table to another.

## Main definitions

* `DataGrid.Entity`, `DataGrid.Column`, `DataGrid.Relation` — the declarations.
* `DataGrid.isSafeName` — the names that a schema may use.
* `DataGrid.Entity.check` — the checks on a single entity.
-/

namespace DataGrid

/-! ## Declarations -/

/-- The storage kind of a column. -/
inductive ColumnKind where
  | text
  | integer
  | float
  | boolean
  | date
  | timestamp
  | uuid
  /-- A document whose nested keys can be addressed. -/
  | json
deriving DecidableEq

/-- The spelling of a column kind. -/
def ColumnKind.tag : ColumnKind → String
  | .text => "text"
  | .integer => "integer"
  | .float => "float"
  | .boolean => "boolean"
  | .date => "date"
  | .timestamp => "timestamp"
  | .uuid => "uuid"
  | .json => "json"

/-- The column kinds by their spellings. -/
def ColumnKind.tags : List (String × ColumnKind) :=
  [("text", .text), ("integer", .integer), ("float", .float), ("boolean", .boolean),
    ("date", .date), ("timestamp", .timestamp), ("uuid", .uuid), ("json", .json)]

/-- The column kind with the given spelling. -/
abbrev ColumnKind.ofTag? (tag : String) : Option ColumnKind := Keyed.find? tag tags

/-- How many rows a relation reaches. -/
inductive RelationKind where
  | belongsTo
  | hasOne
  | hasMany
deriving DecidableEq

/-- The spelling of a relation kind. -/
def RelationKind.tag : RelationKind → String
  | .belongsTo => "belongs_to"
  | .hasOne => "has_one"
  | .hasMany => "has_many"

/-- The relation kinds by their spellings. -/
def RelationKind.tags : List (String × RelationKind) :=
  [("belongs_to", .belongsTo), ("has_one", .hasOne), ("has_many", .hasMany)]

/-- The relation kind with the given spelling. -/
abbrev RelationKind.ofTag? (tag : String) : Option RelationKind := Keyed.find? tag tags

/-- A declared column. -/
structure Column where
  name : String
  kind : ColumnKind := .text
deriving DecidableEq

/-- A relation from one entity to another: the related rows are those whose foreign key equals the
local key. -/
structure Relation where
  name : String
  /-- The entity that is reached. -/
  target : String
  kind : RelationKind := .belongsTo
  /-- A column of the entity the relation starts from. -/
  localKey : String
  /-- A column of the entity that is reached. -/
  foreignKey : String
deriving DecidableEq

/-- An entity, backed by one table. -/
structure Entity where
  name : String
  /-- The table, if it is not called like the entity. -/
  tableName : Option String := none
  /-- The column that identifies a row. -/
  primaryKey : String := "id"
  /-- The column that is set in deleted rows. -/
  softDelete : Option String := none
  columns : List Column := []
  relations : List Relation := []
deriving DecidableEq

/-- A relation whose key is stored on the side it starts from. -/
def Relation.belongingTo (name target localKey : String) : Relation where
  name := name
  target := target
  kind := .belongsTo
  localKey := localKey
  foreignKey := "id"

/-- A relation whose key is stored on the many rows it reaches. -/
def Relation.havingMany (name target foreignKey : String) : Relation where
  name := name
  target := target
  kind := .hasMany
  localKey := "id"
  foreignKey := foreignKey

namespace Entity

/-! ## Look-up -/

/-- The table of an entity. -/
def table (e : Entity) : String := e.tableName.getD e.name

/-- The first column of the given name. -/
def column? (e : Entity) (name : String) : Option Column :=
  e.columns.find? fun c => c.name = name

/-- The first relation of the given name. -/
def relation? (e : Entity) (name : String) : Option Relation :=
  e.relations.find? fun r => r.name = name

end Entity

/-! ## Checks -/

/-- Whether a character may stand in a name: ASCII letters, digits and the underscore. -/
def isNameChar (c : Char) : Bool := c.isAlphanum || c == '_'

/-- Whether a character may begin a name. -/
def isNameStart (c : Char) : Bool := c.isAlpha || c == '_'

/-- A safe name begins with a letter or underscore, goes on with letters, digits and underscores,
and has at most 63 bytes, the length at which the store cuts names. -/
def isSafeName (name : String) : Bool :=
  match name.toList with
  | [] => false
  | c :: cs => isNameStart c && (c :: cs).all isNameChar && name.utf8ByteSize ≤ 63

/-- Refuse a name that is not safe. -/
def checkName (role : NameRole) (name : String) : Except SchemaFault Unit :=
  if isSafeName name then .ok () else .error (.unsafeName role name)

/-- The checks on one relation, in order. -/
def Relation.check (r : Relation) : Except SchemaFault Unit := do
  checkName .relation r.name
  checkName .localKey r.localKey
  checkName .foreignKey r.foreignKey

/-- The checks on one entity, in order: every name is safe, and the primary key is declared. -/
def Entity.check (e : Entity) : Except SchemaFault Unit := do
  checkName .entity e.name
  checkName .table e.table
  checkName .primaryKey e.primaryKey
  match e.softDelete with
  | some column => checkName .softDelete column
  | none => pure ()
  e.columns.forM fun c => checkName .column c.name
  e.relations.forM Relation.check
  if (e.column? e.primaryKey).isSome then pure ()
  else throw (.noPrimaryKey e.name e.primaryKey)

end DataGrid
