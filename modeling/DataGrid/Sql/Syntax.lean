import DataGrid.Decimal.Binary64

/-!
# SQL statements

The part of SQL that grid queries are made of, as data. A statement is never put together from
text: text of a client can only become a literal or the key of a JSON document.

## Main definitions

* `DataGrid.Sql.Expr` — value and truth expressions, with correlated subqueries.
* `DataGrid.Sql.Condition` — a list of terms joined by AND or OR, possibly negated.
* `DataGrid.Sql.Condition.add` — one condition put into another.
* `DataGrid.Sql.Select`, `DataGrid.Sql.Statement` — whole statements.

## Implementation notes

A condition inside an expression is the constructor `Expr.group`, so that a filter tree keeps its
shape until it is printed or evaluated. Subqueries occur in two forms only, as an existence test
and as the lookup of one value.
-/

namespace DataGrid.Sql

/-! ## Operators -/

/-- A constant. -/
inductive Literal where
  | null
  | bool (b : Bool)
  | int (n : Int)
  | float (x : Binary64)
  | string (s : String)
deriving DecidableEq

/-- Comparison of two values. -/
inductive Comparison where
  | eq
  | ne
  | lt
  | le
  | gt
  | ge
deriving DecidableEq

/-- How the terms of a condition are joined. -/
inductive Junction where
  /-- AND; without terms it is true. -/
  | all
  /-- OR; without terms it is false. -/
  | any
deriving DecidableEq

/-- The two aggregates that pick an extreme value. -/
inductive Extreme where
  | min
  | max
deriving DecidableEq

/-- The direction of an ordering term. -/
inductive Direction where
  | asc
  | desc
deriving DecidableEq

/-! ## Expressions -/

mutual

/-- An expression. -/
inductive Expr where
  /-- A column of the table that goes by the given name. -/
  | column (table name : String)
  /-- An output column of the statement itself. -/
  | output (name : String)
  | literal (v : Literal)
  /-- The number of rows. -/
  | countRows
  | extreme (pick : Extreme) (e : Expr)
  | cast (e : Expr) (type : String)
  /-- The member of a JSON document, as a document or as text. -/
  | member (e : Expr) (key : String) (asText : Bool)
  | compare (op : Comparison) (left right : Expr)
  | isNull (negated : Bool) (e : Expr)
  | isIn (negated : Bool) (e : Expr) (values : List Literal)
  /-- A match against a LIKE pattern that ignores case. -/
  | like (negated : Bool) (e : Expr) (pattern : String)
  | not (e : Expr)
  /-- Terms joined by AND or OR, the whole possibly negated. -/
  | group (negated : Bool) (junction : Junction) (terms : List Expr)
  /-- Whether a row of `table`, called `label`, meets the filter. -/
  | existsIn (table label : String) (filter : Expr)
  /-- One value found in `table`, called `label`, and the tables joined to it: an extreme of
  `leaf` over the rows that meet the filter, or `leaf` of the first such row. -/
  | lookup (pick : Option Extreme) (leaf : Expr) (table label : String) (joins : List Join)
      (filter : Expr)

/-- A table joined under a name of its own. -/
inductive Join where
  | mk (table label : String) (on : Expr)

end

/-! ## Conditions -/

/-- Terms joined by AND or OR, the whole possibly negated. -/
structure Condition where
  negated : Bool
  junction : Junction
  terms : List Expr

namespace Condition

/-- The condition without terms that is always true. -/
def all : Condition := ⟨false, .all, []⟩

/-- The condition without terms that is always false. -/
def any : Condition := ⟨false, .any, []⟩

/-- The condition with one term. -/
def ofExpr (e : Expr) : Condition := ⟨false, .all, [e]⟩

/-- The condition as an expression. -/
def toExpr (c : Condition) : Expr := .group c.negated c.junction c.terms

/-- A term put behind the others. -/
def addExpr (c : Condition) (e : Expr) : Condition := { c with terms := c.terms ++ [e] }

/-- What stands for a condition inside another one: a plain condition with a single term is
replaced by that term. -/
def asTerm (c : Condition) : Expr :=
  match c with
  | ⟨false, _, [e]⟩ => e
  | other => other.toExpr

/-- A condition put behind the other terms. -/
def add (c d : Condition) : Condition := c.addExpr d.asTerm

/-- A term that may be missing put behind the others. -/
def addExpr? (c : Condition) : Option Expr → Condition
  | some e => c.addExpr e
  | none => c

/-- A condition that may be missing put behind the other terms. -/
def add? (c : Condition) : Option Condition → Condition
  | some d => c.add d
  | none => c

/-- The opposite condition. -/
def negate (c : Condition) : Condition := { c with negated := !c.negated }

/-- A condition that restricts nothing: there is no term in it. -/
def isEmpty (c : Condition) : Bool := c.terms.isEmpty

end Condition

/-! ## Statements -/

/-- One item of a SELECT list. -/
inductive Output where
  /-- All columns of a table. -/
  | row (table : String)
  | expr (e : Expr)
  | named (e : Expr) (name : String)

/-- A statement on one table and the tables joined to it. -/
structure Select where
  /-- Equal rows are returned once. -/
  distinct : Bool
  outputs : List Output
  table : String
  /-- Left joins: a row without partner is kept. -/
  joins : List Join
  filter : Option Condition
  groups : List Expr
  orders : List (Expr × Direction)
  limit : Option UInt64
  offset : Option UInt64

/-- All rows of a table, without any output yet. -/
def Select.rowsOf (table : String) : Select where
  distinct := false
  outputs := []
  table := table
  joins := []
  filter := none
  groups := []
  orders := []
  limit := none
  offset := none

/-- A whole statement. -/
inductive Statement where
  | select (s : Select)
  /-- The number of rows of a statement that stands as a table of its own. -/
  | countOf (s : Select) (label : String)

end DataGrid.Sql
