import DataGrid.Path.Basic

/-!
# Relation chains

The ways in which a query follows the relations of a path: existence tests for filters, the lookup
of a value for orderings, and left joins for value listings. Every one of them joins the related
table by the keys of the relation and leaves out its deleted rows.

## Main definitions

* `DataGrid.Hop.correlation` — what joins the table of a hop to its parent.
* `DataGrid.ColumnPath.related` — a condition on the rows at the end of a chain.
* `DataGrid.ColumnPath.missing?` — no row at the end of a chain.
* `DataGrid.ColumnPath.sortKey` — one value per row of the subject.
* `DataGrid.ColumnPath.joins` — the tables of a chain, joined one after the other.
-/

namespace DataGrid

open Sql

/-! ## Joining one table -/

/-- The related row is not deleted. -/
def Hop.live? (h : Hop) (parent : String) : Option Expr :=
  h.softDelete.map fun name => .isNull false (.column (h.label parent) name)

/-- The keys of the relation agree, and the related row is not deleted. -/
def Hop.correlation (h : Hop) (parent : String) : Condition :=
  (Condition.all.addExpr (.compare .eq (.column (h.label parent) h.foreignKey)
    (.column parent h.localKey))).addExpr? (h.live? parent)

/-- A related row exists, and meets a condition if one is given. -/
def Hop.existsExpr (h : Hop) (parent : String) (inner : Option Condition) : Expr :=
  .existsIn h.table (h.label parent) ((h.correlation parent).add? inner).toExpr

/-! ## Existence -/

/-- Nested existence tests along the hops, around a condition on the last table. -/
def existsAlong (parent : String) (inner : Option Condition) : List Hop → Option Condition
  | [] => inner
  | h :: rest => some (.ofExpr (h.existsExpr parent (existsAlong (h.label parent) inner rest)))

/-- Some row at the end of the chain meets the condition; without hops the condition itself. -/
def ColumnPath.related (p : ColumnPath) (base : String) (predicate : Condition) : Condition :=
  (existsAlong base (some predicate) p.hops).getD predicate

/-- There is no row at the end of the chain; none for a path without hops. -/
def ColumnPath.missing? (p : ColumnPath) (base : String) : Option Expr :=
  match p.hops with
  | [] => none
  | h :: rest => some (.not (h.existsExpr base (existsAlong (h.label base) none rest)))

/-! ## Joins -/

/-- The tables of the hops, each joined to the one before. -/
def joinsAlong (parent : String) : List Hop → List Join
  | [] => []
  | h :: rest =>
    .mk h.table (h.label parent) (h.correlation parent).toExpr :: joinsAlong (h.label parent) rest

/-- The tables of a path, each joined to the one before. -/
def ColumnPath.joins (p : ColumnPath) (base : String) : List Join := joinsAlong base p.hops

/-! ## Sort keys -/

/-- The extreme that makes one key out of many values: the least in ascending and the greatest in
descending order. -/
def extremeFor : Direction → Extreme
  | .asc => .min
  | .desc => .max

/-- The value by which a row of the subject is ordered: one value reached through the chain. If a
relation of the chain reaches many rows, the extreme in the sense of the ordering. -/
def ColumnPath.sortKey (p : ColumnPath) (base : String) (d : Direction) : Expr :=
  let leaf := p.expr (p.leafLabel base)
  match p.hops with
  | [] => leaf
  | h :: rest =>
    let pick := if p.hops.any fun h => h.kind = .hasMany then some (extremeFor d) else none
    .lookup pick leaf h.table (h.label base) (joinsAlong (h.label base) rest)
      (Condition.all.add (h.correlation base)).toExpr

/-- Without relations the rows are ordered by the value of the path in the table itself. -/
theorem ColumnPath.sortKey_of_hops_eq_nil (p : ColumnPath) (h : p.hops = []) (base : String)
    (d : Direction) : p.sortKey base d = p.expr base := by
  rw [sortKey, p.leafLabel_of_hops_eq_nil h, h]

end DataGrid
