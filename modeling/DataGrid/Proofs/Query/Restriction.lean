import DataGrid.Proofs.Filter.Locality
import DataGrid.Proofs.Query.Operations
import DataGrid.Proofs.Store.Joining

/-!
# Restrictions of a scope

The condition of a scope is a conjunction from the start and stays one, whatever operations are
applied. Each operation adds at most one term to it, so a row is kept when each of the added
conditions is true of the row, taken alone.

## Main definitions

* `DataGrid.ScopeChange.condition?` — the condition that an operation adds.

## Main results

* `DataGrid.Scope.holds_applyAll` — the condition of a scope after any operations.
* `DataGrid.Scope.withTrashed_applyAll` — deleted rows are included by one operation only.
* `DataGrid.Scope.holds_restriction` — the restriction is the condition with the guard.
* `DataGrid.Scope.keeps_eq` — the filter of a statement keeps what the restriction holds of.
* `DataGrid.Registry.Stages.exists_operations` — which operations a compiled request is made of.
-/

namespace DataGrid

open Sql

/-! ## Operations -/

/-- The condition that an operation adds to a scope on the given table, if it restricts the rows at
all. -/
def ScopeChange.condition? (table : String) : ScopeChange → Option Condition
  | .restrict c => some c
  | .keepIn name values => some (.ofExpr (.isIn false (.column table name) values))
  | .keepNotIn name values => some (.ofExpr (.isIn true (.column table name) values))
  | .keepNull name => some (.ofExpr (.isNull false (.column table name)))
  | .keepNotNull name => some (.ofExpr (.isNull true (.column table name)))
  | _ => none

/-- A restriction brings in its own condition. -/
@[simp] theorem ScopeChange.condition?_restrict (table : String) (c : Condition) :
    (ScopeChange.restrict c).condition? table = some c := rfl

/-- A selection asks whether the key is among the identities. -/
@[simp] theorem Selection.condition?_operation (selection : Selection) (table key : String)
    (ids : List Literal) :
    (selection.operation key ids).condition? table =
      some (.ofExpr (.isIn (selection.mode = .except) (.column table key) ids)) := by
  unfold Selection.operation
  cases selection.mode <;> rfl

namespace Scope

variable {V : Type} (S : Scalars V) (db : Database V) (env : Env V) {s : Scope}

/-- An operation puts its condition into the condition of the scope and leaves all else of it. -/
lemma condition_apply (s : Scope) (op : ScopeChange) :
    (s.apply op).condition = s.condition.add? (op.condition? s.table) := by
  cases op <;> rfl

/-- Operations leave the condition of a scope a conjunction. -/
theorem isConjunction_applyAll (h : s.condition.IsConjunction) (ops : List ScopeChange) :
    (s.applyAll ops).condition.IsConjunction := by
  induction ops generalizing s with
  | nil => exact h
  | cons op ops ih =>
    rw [applyAll_cons]
    refine ih ?_
    rw [condition_apply]
    exact h.add? _

/-- **The condition of a scope after operations** holds when it held before and the condition of
each operation holds, taken alone.

**Proof sketch.** Induction on the operations. The condition is a conjunction at each step
(`isConjunction_applyAll`), so the next one is joined to it by AND. -/
theorem holds_applyAll (h : s.condition.IsConjunction) (ops : List ScopeChange) :
    (s.applyAll ops).condition.Holds S db env ↔ s.condition.Holds S db env ∧
      ∀ op ∈ ops, ∀ c, op.condition? s.table = some c → c.Holds S db env := by
  induction ops generalizing s with
  | nil => simp
  | cons op ops ih =>
    have hstep : (s.apply op).condition.IsConjunction := by
      rw [condition_apply]
      exact h.add? _
    rw [applyAll_cons, ih hstep, condition_apply, table_apply, Condition.holds_add? S db env h,
      List.forall_mem_cons, and_assoc]

/-- Deleted rows are included by the one operation that asks for them. -/
theorem withTrashed_applyAll (s : Scope) (ops : List ScopeChange) :
    (s.applyAll ops).withTrashed = true ↔ s.withTrashed = true ∨ .withTrashed ∈ ops := by
  induction ops generalizing s with
  | nil => simp
  | cons op ops ih =>
    rw [applyAll_cons, ih, List.mem_cons]
    cases op <;> simp [apply, restrict, keepIn, keepNotIn, keepNull, keepNotNull, restrictExpr,
      orderBy, orderByExpr, clearOrder, groupBy, addOutput]

/-- The restriction holds when the condition does and the guard, if there is one, lets the row
pass. -/
theorem holds_restriction (h : s.condition.IsConjunction) :
    s.restriction.Holds S db env ↔ s.condition.Holds S db env ∧
      (s.withTrashed = false → ∀ name, s.softDelete = some name → env.cell s.table name = none) := by
  rw [restriction, Condition.holds_addExpr? S db env h, guard?]
  refine and_congr_right fun _ => ?_
  cases s.softDelete with
  | none => simp
  | some name =>
    cases s.withTrashed with
    | true => simp
    | false =>
      simp only [Option.some.injEq, forall_eq', Expr.holds_isNull, forall_true_left]
      rw [column, Expr.eval, Bool.not_false, Option.isNone_iff_eq_none]

/-- The filter of a statement keeps the rows that the restriction holds of: there is no filter only
where there is nothing to filter. -/
theorem keeps_eq (h : s.condition.IsConjunction) {statement : Select}
    (hfilter : statement.filter = s.filter?) (frames : Frames V) :
    statement.keeps S db frames = decide (s.restriction.Holds S db { frames := frames }) := by
  rw [Select.keeps, hfilter, filter?]
  cases hempty : s.restriction.isEmpty with
  | false => rfl
  | true =>
    have hrestriction : s.restriction.IsConjunction := h.addExpr? s.guard?
    have hterms : s.restriction.terms = [] := List.isEmpty_iff.mp hempty
    have hholds : s.restriction.Holds S db { frames := frames } := by
      rw [Condition.holds_all_iff S db _ hrestriction.negated hrestriction.junction, hterms]
      exact fun _ he => nomatch he
    exact (decide_eq_true hholds).symm

end Scope

/-! ## Names -/

/-- What is asked of a single column of the subject looks at the row of the subject only. -/
lemma ScopeChange.isLocal_condition? {op : ScopeChange} {table : String} {c : Condition}
    (h : op.condition? table = some c) (hop : ∀ d, op ≠ .restrict d) : c.IsLocal table := by
  have hcolumn : ∀ name, (Expr.column table name).IsLocal table := Expr.isLocal_column table
  cases op with
  | restrict d => exact absurd rfl (hop d)
  | keepIn name values | keepNotIn name values =>
    exact Option.some.inj h ▸ Condition.isLocal_ofExpr ((hcolumn name).isIn _ values)
  | keepNull name | keepNotNull name =>
    exact Option.some.inj h ▸ Condition.isLocal_ofExpr ((hcolumn name).isNull _)
  | _ => cases h

namespace Scope

/-- The condition of a scope takes the row of the subject only, if the conditions that operations
add do. -/
lemma labels_applyAll {s : Scope} (h : s.condition.toExpr.labels ⊆ [s.table])
    {ops : List ScopeChange}
    (hops : ∀ op ∈ ops, ∀ c, op.condition? s.table = some c → c.toExpr.labels ⊆ [s.table]) :
    (s.applyAll ops).condition.toExpr.labels ⊆ [s.table] := by
  induction ops generalizing s with
  | nil => exact h
  | cons op ops ih =>
    rw [List.forall_mem_cons] at hops
    have htable := s.table_apply op
    have hstep : (s.apply op).condition.toExpr.labels ⊆ [s.table] := by
      rw [condition_apply]
      cases hc : op.condition? s.table with
      | none => exact h
      | some c =>
        rw [Condition.add?, Condition.labels_add]
        exact List.append_subset.mpr ⟨h, hops.1 c hc⟩
    rw [← htable] at hstep hops ⊢
    exact ih hstep hops.2

/-- The guard takes the row of the subject. -/
lemma labels_restriction {s : Scope} (h : s.condition.toExpr.labels ⊆ [s.table]) :
    s.restriction.toExpr.labels ⊆ [s.table] := by
  rw [restriction, guard?]
  split
  · rw [Condition.addExpr?, Condition.labels_addExpr]
    exact List.append_subset.mpr ⟨h, List.Subset.refl _⟩
  · exact h

end Scope

/-! ## Stages that restrict nothing -/

namespace Scope

/-- The primary key changes nothing but the ordering. -/
lemma exists_breakTies_eq (s : Scope) (e : Entity) :
    ∃ orders, s.breakTies e = { s with orders := orders } := by
  unfold breakTies
  split
  · exact ⟨s.orders, rfl⟩
  · exact ⟨_, rfl⟩

/-- A sort order changes nothing but the ordering. -/
lemma exists_sort_eq (s : Scope) (r : Registry) (e : Entity) (entries : List SortEntry) :
    ∃ orders, (s.sort r e entries).scope = { s with orders := orders } := by
  unfold sort
  generalize sortTerms r e s.table entries = found
  obtain ⟨terms, fault⟩ := found
  cases fault with
  | some f => exact ⟨_, rfl⟩
  | none =>
    obtain ⟨orders, horders⟩ := exists_breakTies_eq
      { s with orders := (if entries.isEmpty then s.orders else []) ++ terms } e
    exact ⟨orders, horders⟩

/-- A window changes nothing but offset and limit. -/
lemma exists_windowFrom_eq (s : Scope) (request : Request) :
    ∃ offset limit, s.windowFrom request = { s with offset := offset, limit := limit } := by
  unfold windowFrom
  split
  · exact ⟨_, _, rfl⟩
  · exact ⟨s.offset, s.limit, rfl⟩

/-- A sort order and a window together change nothing but ordering, offset and limit. -/
lemma exists_refined_eq (s : Scope) (r : Registry) (e : Entity) (request : Request) :
    ∃ orders offset limit, (s.sort r e request.sorts).scope.windowFrom request =
      { s with orders := orders, offset := offset, limit := limit } := by
  obtain ⟨orders, horders⟩ := s.exists_sort_eq r e request.sorts
  obtain ⟨offset, limit, hwindow⟩ := (s.sort r e request.sorts).scope.exists_windowFrom_eq request
  exact ⟨orders, offset, limit, by rw [hwindow, horders]⟩

/-- Neither a sort order nor a window restricts the rows. -/
lemma restriction_refined (s : Scope) (r : Registry) (e : Entity) (request : Request) :
    ((s.sort r e request.sorts).scope.windowFrom request).restriction = s.restriction := by
  obtain ⟨orders, offset, limit, hrefined⟩ := s.exists_refined_eq r e request
  rw [hrefined]
  rfl

/-- Neither a sort order nor a window brings output columns. -/
lemma outputs_refined (s : Scope) (r : Registry) (e : Entity) (request : Request) :
    ((s.sort r e request.sorts).scope.windowFrom request).outputs = s.outputs := by
  obtain ⟨orders, offset, limit, hrefined⟩ := s.exists_refined_eq r e request
  rw [hrefined]

/-- A window leaves the ordering. -/
lemma orders_windowFrom (s : Scope) (request : Request) :
    (s.windowFrom request).orders = s.orders := by
  obtain ⟨offset, limit, hwindow⟩ := s.exists_windowFrom_eq request
  rw [hwindow]

end Scope

/-- The operations behind the scope of a subject ask for the rows of the parent, which can be told
from the row of the subject. -/
lemma Subject.exists_scope_eq {subject : Subject} {start : Scope}
    (h : subject.scope = .ok start) :
    ∃ ops, start = (freshScope subject.entity).applyAll ops ∧ ∀ op ∈ ops, ∃ c,
      op.condition? subject.entity.table = some c ∧ c.IsLocal subject.entity.table := by
  obtain ⟨ops, hstart, hops⟩ := subject.scope_spec h
  refine ⟨ops, hstart, ?_⟩
  split at hops
  · rw [hops]
    exact fun _ hop => nomatch hop
  · obtain ⟨key, -, hops⟩ := hops
    rw [hops, List.forall_mem_singleton]
    exact ⟨_, rfl, Condition.isLocal_ofExpr
      ((Expr.isLocal_column _ _).compare .eq (Expr.isLocal_literal key))⟩

namespace Registry.Stages

variable {r : Registry} {subject : Subject} {request : Request} {q : Query} {start : Scope}
variable {conditions : List Condition} {selected : List ScopeChange}

/-- The operations of a selection look at the primary key only. -/
lemma exists_condition_of_mem_selected
    (h : r.Stages subject request q start conditions selected) :
    ∀ op ∈ selected, ∃ c, op.condition? start.table = some c ∧ c.IsLocal start.table := by
  have hselection := h.selection
  split at hselection
  · rw [hselection]
    exact fun _ hop => nomatch hop
  · next selection _ =>
    obtain ⟨ids, -, hops⟩ := hselection
    rw [hops, List.forall_mem_singleton]
    exact ⟨_, selection.condition?_operation _ _ ids,
      Condition.isLocal_ofExpr ((Expr.isLocal_column _ _).isIn _ ids)⟩

/-- The scope of a compiled request is on the entity of its subject. -/
lemma start_spec (h : r.Stages subject request q start conditions selected) :
    start.table = subject.entity.table ∧ start.primaryKey = subject.entity.primaryKey ∧
      start.softDelete = subject.entity.softDelete ∧ start.withTrashed = false ∧
      start.condition.IsConjunction := by
  obtain ⟨ops, hstart, hops⟩ := subject.exists_scope_eq h.start_eq
  rw [hstart]
  refine ⟨Scope.table_applyAll _ _, Scope.primaryKey_applyAll _ _, Scope.softDelete_applyAll _ _,
    ?_, Scope.isConjunction_applyAll Condition.isConjunction_all ops⟩
  rw [Bool.eq_false_iff, Ne, Scope.withTrashed_applyAll, not_or]
  refine ⟨Bool.false_ne_true, fun hmem => ?_⟩
  -- including deleted rows asks for nothing
  obtain ⟨c, hc, -⟩ := hops _ hmem
  cases hc

/-- Ordering and window aside, the scope of a compiled request is made by the operations of the
custom filter, of the filters and of the selection. -/
lemma exists_scope_eq (h : r.Stages subject request q start conditions selected) :
    ∃ orders offset limit, q.scope =
      { start.applyAll (r.operations subject request ++ conditions.map .restrict ++ selected) with
        orders := orders, offset := offset, limit := limit } := by
  rw [h.scope_eq]
  exact Scope.exists_refined_eq _ r subject.entity request

/-- The condition of a compiled request is a conjunction. -/
lemma isConjunction (h : r.Stages subject request q start conditions selected) :
    q.scope.condition.IsConjunction := by
  obtain ⟨_, _, _, _, hstart⟩ := h.start_spec
  obtain ⟨orders, offset, limit, hscope⟩ := h.exists_scope_eq
  rw [hscope]
  exact Scope.isConjunction_applyAll hstart _

/-- A compiled request is about the table of its subject. -/
lemma table_eq (h : r.Stages subject request q start conditions selected) :
    q.scope.table = subject.entity.table := by
  obtain ⟨htable, _⟩ := h.start_spec
  obtain ⟨orders, offset, limit, hscope⟩ := h.exists_scope_eq
  rw [hscope]
  exact (Scope.table_applyAll _ _).trans htable

/-- **Where operations come from**: each operation behind a compiled request is one of the custom
filter, or it adds a condition that looks at the row of the subject only or is a filter of the
request. -/
theorem exists_operations (h : r.Stages subject request q start conditions selected) :
    ∃ ops : List ScopeChange,
      q.scope = (((Subject.freshScope subject.entity).applyAll ops).sort r subject.entity
        request.sorts).scope.windowFrom request ∧
      ∀ op ∈ ops, op ∈ r.operations subject request ∨
        ∃ c, op.condition? subject.entity.table = some c ∧ (c.IsLocal subject.entity.table ∨
          ∃ (column : String) (node : FilterNode) (p : ColumnPath),
            r.resolve subject.entity column = .ok p ∧
              node.entry p subject.entity.table = .ok c) := by
  obtain ⟨htable, -⟩ := h.start_spec
  obtain ⟨parents, hstart, hparents⟩ := subject.exists_scope_eq h.start_eq
  have hselected := h.exists_condition_of_mem_selected
  have hfilters := h.filters
  rw [htable] at hselected hfilters
  refine ⟨parents ++ (r.operations subject request ++ conditions.map .restrict ++ selected), ?_,
    fun op hop => ?_⟩
  · rw [h.scope_eq, Scope.applyAll_append _ parents, ← hstart]
  · simp only [List.mem_append, List.mem_map] at hop
    rcases hop with hparent | (hcustom | ⟨c, hc, rfl⟩) | hselection
    · obtain ⟨c, hc, hlocal⟩ := hparents op hparent
      exact .inr ⟨c, hc, .inl hlocal⟩
    · exact .inl hcustom
    · obtain ⟨entry, -, p, hp, hentry⟩ := exists_of_mem_forall₂ hfilters hc
      exact .inr ⟨c, rfl, .inr ⟨entry.1, entry.2, p, hp, hentry⟩⟩
    · obtain ⟨c, hc, hlocal⟩ := hselected op hselection
      exact .inr ⟨c, hc, .inl hlocal⟩

end Registry.Stages

end DataGrid
