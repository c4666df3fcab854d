import DataGrid.Keyed
import DataGrid.Proofs.Store.Joining

/-!
# Columns in scope

An expression takes a column from the row that goes by a certain name. Which table this row is one
of depends on where the expression stands: the FROM clauses and joins around it give names to
tables, and of equal names the innermost counts. Here every column of a statement is listed together
with the tables that are in scope where it is taken.

## Main definitions

* `DataGrid.Sql.Bindings` — the tables in scope, by the names they go by.
* `DataGrid.Sql.Reference` — a column that is taken somewhere, with the tables in scope there.
* `DataGrid.Sql.Expr.references` — the columns that an expression takes, also in its subqueries.
* `DataGrid.Sql.Select.items`, `DataGrid.Sql.Statement.items` — what stands at the top of a
  statement, each part with the tables in scope there.

## Main results

* `DataGrid.Sql.Condition.refers_add` — a condition put into another takes its own columns only.
* `DataGrid.Sql.find?_scopeThrough` — names that joins do not give keep their tables.
-/

namespace DataGrid.Sql

/-! ## Tables in scope -/

/-- The tables in scope by the names they go by, the innermost first. -/
abbrev Bindings := List (String × String)

/-- The tables in scope behind joins. -/
def scopeThrough (scope : Bindings) : List Join → Bindings
  | [] => scope
  | .mk table label _ :: rest => scopeThrough ((label, table) :: scope) rest

/-- The condition of a join. -/
def Join.on : Join → Expr
  | .mk _ _ on => on

/-- A name that joins do not give keeps its table. -/
lemma find?_scopeThrough {name : String} {joins : List Join}
    (h : ∀ join ∈ joins, join.label ≠ name) (scope : Bindings) :
    Keyed.find? name (scopeThrough scope joins) = Keyed.find? name scope := by
  induction joins generalizing scope with
  | nil => rfl
  | cons join rest ih =>
    obtain ⟨table, label, on⟩ := join
    rw [List.forall_mem_cons] at h
    rw [scopeThrough, ih h.2]
    exact if_neg h.1

/-! ## References -/

/-- A column that is taken somewhere in a statement. -/
structure Reference where
  /-- The name of the row that it is taken from. -/
  label : String
  /-- The column; none stands for all columns of the row. -/
  column : Option String
  /-- The tables in scope where it is taken. -/
  scope : Bindings

/-- The table that a reference reads: the innermost one that goes by the name. -/
def Reference.table? (ref : Reference) : Option String := Keyed.find? ref.label ref.scope

mutual

/-- The columns that an expression takes, from rows around it and in its subqueries. -/
def Expr.references (scope : Bindings) : Expr → List Reference
  | .column label name => [⟨label, some name, scope⟩]
  | .output _ => []
  | .literal _ => []
  | .countRows => []
  | .extreme _ e => e.references scope
  | .cast e _ => e.references scope
  | .member e _ _ => e.references scope
  | .compare _ left right => left.references scope ++ right.references scope
  | .isNull _ e => e.references scope
  | .isIn _ e _ => e.references scope
  | .like _ e _ => e.references scope
  | .not e => e.references scope
  | .group _ _ terms => referencesOf scope terms
  | .existsIn table label filter => filter.references ((label, table) :: scope)
  | .lookup _ leaf table label joins filter =>
    let inner := scopeThrough ((label, table) :: scope) joins
    leaf.references inner ++ referencesThrough ((label, table) :: scope) joins ++
      filter.references inner

/-- The columns that several expressions take. -/
def referencesOf (scope : Bindings) : List Expr → List Reference
  | [] => []
  | e :: rest => e.references scope ++ referencesOf scope rest

/-- The columns that the conditions of joins take. The table of a join is in scope in its own
condition and in those behind it. -/
def referencesThrough (scope : Bindings) : List Join → List Reference
  | [] => []
  | .mk table label on :: rest =>
    on.references ((label, table) :: scope) ++ referencesThrough ((label, table) :: scope) rest

end

section

variable {sound : Reference → Prop} {scope : Bindings}

/-- All columns that an expression takes meet a property. -/
def Expr.Refers (sound : Reference → Prop) (scope : Bindings) (e : Expr) : Prop :=
  ∀ ref ∈ e.references scope, sound ref

/-- The columns of several expressions are those of each. -/
lemma forall_mem_referencesOf {terms : List Expr} :
    (∀ ref ∈ referencesOf scope terms, sound ref) ↔ ∀ e ∈ terms, e.Refers sound scope := by
  induction terms with
  | nil => simp [referencesOf]
  | cons e rest ih => rw [referencesOf, List.forall_mem_append, ih, List.forall_mem_cons]; rfl

namespace Expr

/-- A column is one reference, to the table that its label stands for. -/
@[simp] theorem refers_column (label name : String) :
    (column label name).Refers sound scope ↔ sound ⟨label, some name, scope⟩ :=
  List.forall_mem_singleton

/-- A literal refers to nothing. -/
@[simp] theorem refers_literal (v : Literal) : (literal v).Refers sound scope :=
  List.forall_mem_nil _

/-- A cast refers to what it casts. -/
@[simp] theorem refers_cast (e : Expr) (type : String) :
    (cast e type).Refers sound scope ↔ e.Refers sound scope := Iff.rfl

/-- A value inside a document refers to what the document refers to. -/
@[simp] theorem refers_member (e : Expr) (key : String) (asText : Bool) :
    (member e key asText).Refers sound scope ↔ e.Refers sound scope := Iff.rfl

/-- A comparison has the references of both sides. -/
@[simp] theorem refers_compare (op : Comparison) (left right : Expr) :
    (compare op left right).Refers sound scope ↔
      left.Refers sound scope ∧ right.Refers sound scope := List.forall_mem_append

/-- A test for null has the references of what it tests. -/
@[simp] theorem refers_isNull (negated : Bool) (e : Expr) :
    (isNull negated e).Refers sound scope ↔ e.Refers sound scope := Iff.rfl

/-- A membership test has the references of what it tests. -/
@[simp] theorem refers_isIn (negated : Bool) (e : Expr) (values : List Literal) :
    (isIn negated e values).Refers sound scope ↔ e.Refers sound scope := Iff.rfl

/-- A match has the references of what it matches. -/
@[simp] theorem refers_like (negated : Bool) (e : Expr) (pattern : String) :
    (like negated e pattern).Refers sound scope ↔ e.Refers sound scope := Iff.rfl

/-- An opposite has the references of what it is the opposite of. -/
@[simp] theorem refers_not (e : Expr) :
    (Expr.not e).Refers sound scope ↔ e.Refers sound scope := Iff.rfl

/-- A group has the references of all of its terms. -/
@[simp] theorem refers_group (negated : Bool) (junction : Junction) (terms : List Expr) :
    (group negated junction terms).Refers sound scope ↔ ∀ e ∈ terms, e.Refers sound scope :=
  forall_mem_referencesOf

/-- Inside an existence test, the label of its table is bound innermost. -/
@[simp] theorem refers_existsIn (table label : String) (filter : Expr) :
    (existsIn table label filter).Refers sound scope ↔
      filter.Refers sound ((label, table) :: scope) := Iff.rfl

/-- Inside a lookup, the labels of its table and of its joins are bound, each one for what comes
after it. -/
@[simp] theorem refers_lookup (pick : Option Extreme) (leaf : Expr) (table label : String)
    (joins : List Join) (filter : Expr) :
    (lookup pick leaf table label joins filter).Refers sound scope ↔
      leaf.Refers sound (scopeThrough ((label, table) :: scope) joins) ∧
        (∀ ref ∈ referencesThrough ((label, table) :: scope) joins, sound ref) ∧
        filter.Refers sound (scopeThrough ((label, table) :: scope) joins) := by
  have hall : (lookup pick leaf table label joins filter).Refers sound scope ↔ ∀ ref ∈
      leaf.references (scopeThrough ((label, table) :: scope) joins) ++
        referencesThrough ((label, table) :: scope) joins ++
          filter.references (scopeThrough ((label, table) :: scope) joins), sound ref := Iff.rfl
  rw [hall, List.forall_mem_append, List.forall_mem_append, and_assoc]
  rfl

end Expr

/-! ## Conditions -/

namespace Condition

variable {c d : Condition} {e : Expr}

/-- All columns that a condition takes meet a property. -/
def Refers (sound : Reference → Prop) (scope : Bindings) (c : Condition) : Prop :=
  c.toExpr.Refers sound scope

/-- The columns of a condition are those of its terms. -/
lemma refers_iff : c.Refers sound scope ↔ ∀ e ∈ c.terms, e.Refers sound scope :=
  Expr.refers_group c.negated c.junction c.terms

/-- A condition without terms refers to nothing. -/
@[simp] theorem refers_empty (negated : Bool) (junction : Junction) :
    (Condition.mk negated junction []).Refers sound scope :=
  refers_iff.mpr fun _ he => nomatch he

/-- A condition of one term has the references of the term. -/
@[simp] theorem refers_ofExpr : (ofExpr e).Refers sound scope ↔ e.Refers sound scope := by
  simp [refers_iff, ofExpr]

/-- A term that is put into a condition adds its references. -/
@[simp] theorem refers_addExpr :
    (c.addExpr e).Refers sound scope ↔ c.Refers sound scope ∧ e.Refers sound scope := by
  simp only [refers_iff, addExpr, List.forall_mem_append, List.forall_mem_singleton]

/-- What stands for a condition inside another one takes the same columns. -/
@[simp] theorem refers_asTerm : c.asTerm.Refers sound scope ↔ c.Refers sound scope := by
  unfold asTerm
  split
  · simp [refers_iff]
  · rfl

/-- A condition put into another takes its own columns only. -/
@[simp] theorem refers_add :
    (c.add d).Refers sound scope ↔ c.Refers sound scope ∧ d.Refers sound scope := by
  rw [add, refers_addExpr, refers_asTerm]

/-- So does a term that may be missing. -/
lemma refers_addExpr? {o : Option Expr} :
    (c.addExpr? o).Refers sound scope ↔
      c.Refers sound scope ∧ ∀ e, o = some e → e.Refers sound scope := by
  cases o <;> simp [addExpr?]

/-- So does a condition that may be missing. -/
lemma refers_add? {o : Option Condition} :
    (c.add? o).Refers sound scope ↔
      c.Refers sound scope ∧ ∀ d, o = some d → d.Refers sound scope := by
  cases o <;> simp [add?]

end Condition

end

/-! ## Statements -/

/-- The columns that an item of a SELECT list takes. -/
def Output.references (scope : Bindings) : Output → List Reference
  | .row label => [⟨label, none, scope⟩]
  | .expr e => e.references scope
  | .named e _ => e.references scope

/-- The conditions of joins, each with the tables in scope there. -/
def onItems (scope : Bindings) : List Join → List (Bindings × Output)
  | [] => []
  | .mk table label on :: rest =>
    ((label, table) :: scope, .expr on) :: onItems ((label, table) :: scope) rest

/-- The columns that joins take are those of their conditions. -/
lemma forall_mem_referencesThrough {sound : Reference → Prop} {scope : Bindings}
    {joins : List Join} :
    (∀ ref ∈ referencesThrough scope joins, sound ref) ↔
      ∀ item ∈ onItems scope joins, ∀ ref ∈ item.2.references item.1, sound ref := by
  induction joins generalizing scope with
  | nil => simp [referencesThrough, onItems]
  | cons join rest ih =>
    obtain ⟨table, label, on⟩ := join
    rw [referencesThrough, onItems, List.forall_mem_append, List.forall_mem_cons, ih]
    rfl

/-- The conditions of joins stand in the joins. -/
lemma exists_join_of_mem_onItems {scope : Bindings} {joins : List Join}
    {item : Bindings × Output} (h : item ∈ onItems scope joins) :
    ∃ join ∈ joins, item.2 = .expr join.on := by
  induction joins generalizing scope with
  | nil => simp [onItems] at h
  | cons join rest ih =>
    obtain ⟨table, label, on⟩ := join
    rw [onItems, List.mem_cons] at h
    rcases h with rfl | h
    · exact ⟨_, List.mem_cons_self, rfl⟩
    · obtain ⟨join, hjoin, hitem⟩ := ih h
      exact ⟨join, List.mem_cons_of_mem _ hjoin, hitem⟩

namespace Select

variable (s : Select)

/-- The tables in scope in a statement behind its joins. -/
def scope : Bindings := scopeThrough [(s.table, s.table)] s.joins

/-- What stands at the top of a statement, each part with the tables in scope there: the SELECT
list, the conditions of the joins, the terms of the filter, the group columns and the ordering
terms. -/
def items : List (Bindings × Output) :=
  onItems [(s.table, s.table)] s.joins ++
    (s.outputs ++ ((s.filter.elim [] Condition.terms) ++ s.groups ++ s.orders.map Prod.fst).map
      Output.expr).map fun item => (s.scope, item)

/-- What holds of all that stands at the top of a statement holds of each of its parts. -/
lemma forall_mem_items {holds : Bindings × Output → Prop} :
    (∀ item ∈ s.items, holds item) ↔
      (∀ item ∈ onItems [(s.table, s.table)] s.joins, holds item) ∧
      (∀ o ∈ s.outputs, holds (s.scope, o)) ∧
      (∀ c, s.filter = some c → ∀ e ∈ c.terms, holds (s.scope, .expr e)) ∧
      (∀ e ∈ s.groups, holds (s.scope, .expr e)) ∧
      ∀ t ∈ s.orders, holds (s.scope, .expr t.1) := by
  have hfilter : (∀ e ∈ s.filter.elim [] Condition.terms, holds (s.scope, .expr e)) ↔
      ∀ c, s.filter = some c → ∀ e ∈ c.terms, holds (s.scope, .expr e) := by
    cases s.filter <;> simp
  simp only [items, List.forall_mem_append, List.forall_mem_map, hfilter, and_assoc]

end Select

/-- What stands at the top of a whole statement. -/
def Statement.items (statement : Statement) : List (Bindings × Output) := statement.body.items

/-- The columns that a whole statement takes. -/
def Statement.references (statement : Statement) : List Reference :=
  statement.items.flatMap fun item => item.2.references item.1

end DataGrid.Sql
