import DataGrid.Sql.Syntax
import Mathlib.Data.List.Basic
import Mathlib.Tactic.Lemma

/-!
# Identifiers of statements

What stands in a statement as a name and not as a value: tables and columns, the names under which
tables are joined, output columns, and the types that values are cast to. Constants, LIKE patterns
and the keys inside documents are values.

## Main definitions

* `DataGrid.Sql.Expr.identifiers`, `DataGrid.Sql.Statement.identifiers` — the names that stand in an
  expression, and in a whole statement.
* `DataGrid.Sql.Expr.NamedBy`, `DataGrid.Sql.Condition.NamedBy`, `DataGrid.Sql.Statement.NamedBy` —
  all of these names are of a certain kind.

## Main results

* `DataGrid.Sql.Condition.namedBy_add` — a condition put into another brings its own names only.
* `DataGrid.Sql.Select.namedBy_iff` — the names of a statement, part by part.
-/

namespace DataGrid.Sql

/-! ## The names of expressions -/

mutual

/-- The names that stand in an expression. -/
@[simp] def Expr.identifiers : Expr → List String
  | .column table name => [table, name]
  | .output name => [name]
  | .literal _ => []
  | .countRows => []
  | .extreme _ e => e.identifiers
  | .cast e type => type :: e.identifiers
  | .member e _ _ => e.identifiers
  | .compare _ left right => left.identifiers ++ right.identifiers
  | .isNull _ e => e.identifiers
  | .isIn _ e _ => e.identifiers
  | .like _ e _ => e.identifiers
  | .not e => e.identifiers
  | .group _ _ terms => identifiersOf terms
  | .existsIn table label filter => table :: label :: filter.identifiers
  | .lookup _ leaf table label joins filter =>
    table :: label :: (leaf.identifiers ++ identifiersThrough joins ++ filter.identifiers)

/-- The names that stand in several expressions. -/
def identifiersOf : List Expr → List String
  | [] => []
  | e :: rest => e.identifiers ++ identifiersOf rest

/-- The names that stand in joins. -/
def identifiersThrough : List Join → List String
  | [] => []
  | .mk table label on :: rest => table :: label :: (on.identifiers ++ identifiersThrough rest)

end

section

variable {kind : String → Prop}

/-- All names in an expression are of the given kind. -/
def Expr.NamedBy (kind : String → Prop) (e : Expr) : Prop := ∀ name ∈ e.identifiers, kind name

/-- All names in a join are of the given kind. -/
def Join.NamedBy (kind : String → Prop) : Join → Prop
  | .mk table label on => kind table ∧ kind label ∧ on.NamedBy kind

/-- The names of several expressions are those of each. -/
lemma forall_mem_identifiersOf {terms : List Expr} :
    (∀ name ∈ identifiersOf terms, kind name) ↔ ∀ e ∈ terms, e.NamedBy kind := by
  induction terms with
  | nil => simp [identifiersOf]
  | cons e rest ih => rw [identifiersOf, List.forall_mem_append, ih, List.forall_mem_cons]; rfl

/-- The names of several joins are those of each. -/
lemma forall_mem_identifiersThrough {joins : List Join} :
    (∀ name ∈ identifiersThrough joins, kind name) ↔ ∀ join ∈ joins, join.NamedBy kind := by
  induction joins with
  | nil => simp [identifiersThrough]
  | cons join rest ih =>
    obtain ⟨table, label, on⟩ := join
    simp only [identifiersThrough, List.forall_mem_cons, List.forall_mem_append, ih, Join.NamedBy,
      Expr.NamedBy, and_assoc]

namespace Expr

/-- A column is named by its table and its name. -/
@[simp] theorem namedBy_column (table name : String) :
    (column table name).NamedBy kind ↔ kind table ∧ kind name := by
  simp [NamedBy]

/-- An output is named by its name. -/
@[simp] theorem namedBy_output (name : String) : (output name).NamedBy kind ↔ kind name := by
  simp [NamedBy]

/-- A literal has no names in it. -/
@[simp] theorem namedBy_literal (v : Literal) : (literal v).NamedBy kind := by
  simp [NamedBy]

/-- Neither has the number of rows. -/
@[simp] theorem namedBy_countRows : countRows.NamedBy kind := by
  simp [NamedBy]

/-- A cast adds the name of its type. -/
@[simp] theorem namedBy_cast (e : Expr) (type : String) :
    (cast e type).NamedBy kind ↔ kind type ∧ e.NamedBy kind := by
  simp [NamedBy]

/-- The key into a document is no name but a literal. -/
@[simp] theorem namedBy_member (e : Expr) (key : String) (asText : Bool) :
    (member e key asText).NamedBy kind ↔ e.NamedBy kind := by
  simp [NamedBy]

/-- A comparison has the names of both sides. -/
@[simp] theorem namedBy_compare (op : Comparison) (left right : Expr) :
    (compare op left right).NamedBy kind ↔ left.NamedBy kind ∧ right.NamedBy kind := by
  simp only [NamedBy, identifiers, List.forall_mem_append]

/-- A test for null has the names of what it tests. -/
@[simp] theorem namedBy_isNull (negated : Bool) (e : Expr) :
    (isNull negated e).NamedBy kind ↔ e.NamedBy kind := by
  simp [NamedBy]

/-- A membership test has the names of what it tests. -/
@[simp] theorem namedBy_isIn (negated : Bool) (e : Expr) (values : List Literal) :
    (isIn negated e values).NamedBy kind ↔ e.NamedBy kind := by
  simp [NamedBy]

/-- A match has the names of what it matches. -/
@[simp] theorem namedBy_like (negated : Bool) (e : Expr) (pattern : String) :
    (like negated e pattern).NamedBy kind ↔ e.NamedBy kind := by
  simp [NamedBy]

/-- An opposite has the names of what it is the opposite of. -/
@[simp] theorem namedBy_not (e : Expr) : (Expr.not e).NamedBy kind ↔ e.NamedBy kind := by
  simp [NamedBy]

/-- A group has the names of all of its terms. -/
@[simp] theorem namedBy_group (negated : Bool) (junction : Junction) (terms : List Expr) :
    (group negated junction terms).NamedBy kind ↔ ∀ e ∈ terms, e.NamedBy kind := by
  rw [NamedBy, identifiers, forall_mem_identifiersOf]

/-- An existence test adds a table and its label. -/
@[simp] theorem namedBy_existsIn (table label : String) (filter : Expr) :
    (existsIn table label filter).NamedBy kind ↔
      kind table ∧ kind label ∧ filter.NamedBy kind := by
  simp only [NamedBy, identifiers, List.forall_mem_cons]

/-- A lookup adds a table and its label, and has the names of its joins. -/
@[simp] theorem namedBy_lookup (pick : Option Extreme) (leaf : Expr) (table label : String)
    (joins : List Join) (filter : Expr) :
    (lookup pick leaf table label joins filter).NamedBy kind ↔ kind table ∧ kind label ∧
      leaf.NamedBy kind ∧ (∀ join ∈ joins, join.NamedBy kind) ∧ filter.NamedBy kind := by
  simp only [NamedBy, identifiers, List.forall_mem_cons, List.forall_mem_append,
    forall_mem_identifiersThrough, and_assoc]

end Expr

/-! ## The names of conditions -/

namespace Condition

variable {c d : Condition} {e : Expr}

/-- All names in a condition are of the given kind. -/
def NamedBy (kind : String → Prop) (c : Condition) : Prop := c.toExpr.NamedBy kind

/-- The names of a condition are those of its terms. -/
lemma namedBy_iff : c.NamedBy kind ↔ ∀ e ∈ c.terms, e.NamedBy kind :=
  Expr.namedBy_group c.negated c.junction c.terms

/-- A condition without terms has no names. -/
@[simp] theorem namedBy_empty (negated : Bool) (junction : Junction) :
    (Condition.mk negated junction []).NamedBy kind :=
  namedBy_iff.mpr fun _ he => nomatch he

/-- A condition of one term has the names of the term. -/
@[simp] theorem namedBy_ofExpr : (ofExpr e).NamedBy kind ↔ e.NamedBy kind := by
  simp [namedBy_iff, ofExpr]

/-- A term that is put into a condition adds its names. -/
@[simp] theorem namedBy_addExpr :
    (c.addExpr e).NamedBy kind ↔ c.NamedBy kind ∧ e.NamedBy kind := by
  simp only [namedBy_iff, addExpr, List.forall_mem_append, List.forall_mem_singleton]

/-- What stands for a condition inside another one has the same names. -/
@[simp] theorem namedBy_asTerm : c.asTerm.NamedBy kind ↔ c.NamedBy kind := by
  unfold asTerm
  split
  · simp [namedBy_iff]
  · rfl

/-- A condition put into another brings its own names only. -/
@[simp] theorem namedBy_add : (c.add d).NamedBy kind ↔ c.NamedBy kind ∧ d.NamedBy kind := by
  rw [add, namedBy_addExpr, namedBy_asTerm]

/-- So does a term that may be missing. -/
lemma namedBy_addExpr? {o : Option Expr} :
    (c.addExpr? o).NamedBy kind ↔ c.NamedBy kind ∧ ∀ e, o = some e → e.NamedBy kind := by
  cases o <;> simp [addExpr?]

/-- So does a condition that may be missing. -/
lemma namedBy_add? {o : Option Condition} :
    (c.add? o).NamedBy kind ↔ c.NamedBy kind ∧ ∀ d, o = some d → d.NamedBy kind := by
  cases o <;> simp [add?]

end Condition

/-! ## The names of statements -/

/-- The names that stand in an item of a SELECT list. -/
def Output.identifiers : Output → List String
  | .row table => [table]
  | .expr e => e.identifiers
  | .named e name => name :: e.identifiers

/-- The names that stand in a statement on one table and the tables joined to it. -/
def Select.identifiers (s : Select) : List String :=
  s.table :: (s.outputs.flatMap Output.identifiers ++ identifiersThrough s.joins ++
    (match s.filter with
      | none => []
      | some c => identifiersOf c.terms) ++
    identifiersOf s.groups ++ identifiersOf (s.orders.map Prod.fst))

/-- The names that stand in a whole statement. -/
def Statement.identifiers : Statement → List String
  | .select s => s.identifiers
  | .countOf s label => label :: s.identifiers

/-- All names in a statement are of the given kind. -/
def Statement.NamedBy (kind : String → Prop) (s : Statement) : Prop :=
  ∀ name ∈ s.identifiers, kind name

/-- The names of a statement, part by part. -/
theorem Select.namedBy_iff (s : Select) :
    (∀ name ∈ s.identifiers, kind name) ↔
      kind s.table ∧ (∀ o ∈ s.outputs, ∀ name ∈ o.identifiers, kind name) ∧
        (∀ join ∈ s.joins, join.NamedBy kind) ∧
        (∀ c, s.filter = some c → c.NamedBy kind) ∧
        (∀ e ∈ s.groups, e.NamedBy kind) ∧ ∀ t ∈ s.orders, t.1.NamedBy kind := by
  have hfilter : (∀ name ∈ (match s.filter with
      | none => []
      | some c => identifiersOf c.terms), kind name) ↔
      ∀ c, s.filter = some c → c.NamedBy kind := by
    cases s.filter with
    | none => simp
    | some c => simp [forall_mem_identifiersOf, Condition.namedBy_iff]
  rw [identifiers, List.forall_mem_cons]
  simp only [List.forall_mem_append, List.forall_mem_flatMap, forall_mem_identifiersThrough,
    hfilter, forall_mem_identifiersOf, List.forall_mem_map, and_assoc]

end

end DataGrid.Sql
