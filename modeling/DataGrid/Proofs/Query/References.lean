import DataGrid.Proofs.Path.Standing
import DataGrid.Proofs.Query.Identifiers

/-!
# The references of compiled requests

Every column in a page, a total or a value listing is taken from a table that is in scope where it
is taken, and this table is the one that was meant: that of the subject, or the one behind the
relations of the column id from which that part of the statement was compiled. Subqueries and joins
of several parts may use the same names side by side and inside one another, and nothing is mixed up
by that.

Most of the columns are declared by the entity that is read. The exception is the guard against
deleted rows, whose column a schema may name without declaring it.

## Main definitions

* `DataGrid.Registry.Origin` — what a part of a statement was compiled from.
* `DataGrid.Registry.Traces` — a part of a statement, traced to its origin, has sound references.

## Main results

* `DataGrid.Query.IsStatement.traces` — all parts of all statements are traced.
* `DataGrid.Registry.references_are_bound` — all references are bound to the entities that are meant.
* `DataGrid.Registry.references_are_declared` — which columns are referred to.
* `DataGrid.Registry.guard_not_declared` — a guard by a column that is not declared.
-/

namespace DataGrid

open Sql

/-! ## Origins -/

section

variable (r : Registry) (subject : Subject) (request : Request)

/-- What a part of a statement was compiled from, with the hops of the column id that it belongs
to. -/
inductive Registry.Origin : List Hop → Output → Prop
  /-- What belongs to no column id: it takes the whole row of the subject, or the columns of the
  primary key, of deleted rows, and of the parent. -/
  | own {item : Output} : (∀ scope, ∀ ref ∈ item.references scope,
      ref.label = subject.entity.table ∧ ref.scope = scope ∧
      ∀ column, ref.column = some column → column = subject.entity.primaryKey ∨
        subject.entity.softDelete = some column ∨
        ∃ p, subject.parent = some p ∧ column = p.column) → Registry.Origin [] item
  /-- A filter of the request, as a term of the restriction. -/
  | filter {entry : String × FilterNode} {p : ColumnPath} {c : Condition} :
    entry ∈ request.filters → r.resolve subject.entity entry.1 = .ok p →
    entry.2.entry p subject.entity.table = .ok c → Registry.Origin p.hops (.expr c.asTerm)
  /-- An entry of the sort order. -/
  | sort {entry : SortEntry} {p : ColumnPath} : entry ∈ request.sorts →
    r.resolve subject.entity entry.column = .ok p →
    Registry.Origin p.hops (.expr (p.sortKey subject.entity.table entry.direction))
  /-- The value of the listed column. -/
  | listed {column : String} {p : ColumnPath} : request.column = some column →
    r.resolve subject.entity column = .ok p →
    Registry.Origin p.hops (.named (p.expr (p.leafLabel subject.entity.table)) valueName)
  /-- The condition of a join along the listed column. -/
  | joined {column : String} {p : ColumnPath} {join : Join} : request.column = some column →
    r.resolve subject.entity column = .ok p → join ∈ p.joins subject.entity.table →
    Registry.Origin p.hops (.expr join.on)

/-- A part of a statement has an origin, and along the hops of its origin all of its references are
sound. -/
def Registry.Traces (item : Bindings × Output) : Prop :=
  ∃ hops, r.Origin subject request hops item.2 ∧ ∀ ref ∈ item.2.references item.1,
    ref.IsSound r subject.entity.table subject.entity hops

end

variable {r : Registry} {subject : Subject} {request : Request} {q : Query} {scope : Bindings}

/-- The column by which rows belong to a parent is declared by their own entity. -/
lemma Subject.IsOf.declares_parentColumn (h : subject.IsOf r) (haccepted : r.IsAccepted)
    {p : Parent} (hp : subject.parent = some p) : subject.entity.Declares p.column := by
  rcases h with ⟨name, h⟩ | ⟨parent, relation, key, h⟩
  · obtain ⟨e, -, h⟩ := bind_eq_ok.mp h
    rw [← pure_eq_ok.mp h] at hp
    cases hp
  · obtain ⟨source, hsource, h⟩ := bind_eq_ok.mp h
    split at h
    · cases h
    · next link hlink =>
      obtain ⟨e, he, h⟩ := bind_eq_ok.mp h
      have htarget : r.entity? link.target = some e := by
        unfold Registry.entity at he
        split at he
        · next found hfound => exact Except.ok.inj he ▸ hfound
        · cases he
      have hsubject := pure_eq_ok.mp h
      rw [← hsubject] at hp ⊢
      have hcolumn : p.column = link.foreignKey := by rw [← Option.some.inj hp]
      have hkeys := haccepted.declares_keys (Registry.has_of_entity hsource)
        (List.mem_of_find?_eq_some hlink) htarget
      rw [hcolumn]
      exact hkeys.2

namespace Registry

/-- What belongs to no column id is traced wherever the table of the subject is in scope. -/
lemma traces_own (haccepted : r.IsAccepted) (hsubject : subject.IsOf r) {item : Output}
    (hitem : ∀ scope, ∀ ref ∈ item.references scope,
      ref.label = subject.entity.table ∧ ref.scope = scope ∧
      ∀ column, ref.column = some column → column = subject.entity.primaryKey ∨
        subject.entity.softDelete = some column ∨
        ∃ p, subject.parent = some p ∧ column = p.column)
    (hscope : Keyed.find? subject.entity.table scope = some subject.entity.table) :
    r.Traces subject request (scope, item) := by
  refine ⟨[], .own hitem, ?_⟩
  intro ref href
  obtain ⟨hlabel, hrefscope, hcolumn⟩ := hitem scope ref href
  obtain ⟨label, column, refscope⟩ := ref
  dsimp only at hlabel hrefscope hcolumn
  subst hlabel hrefscope
  refine Reference.isSound_here hscope ?_
  intro name hname
  rcases hcolumn name hname with hkey | hsoft | ⟨p, hp, hparent⟩
  · exact .inl (hkey ▸ haccepted.declares_primaryKey hsubject.has)
  · exact .inr hsoft
  · exact .inl (hparent ▸ hsubject.declares_parentColumn haccepted hp)

/-- A test of a single column of the subject belongs to no column id. -/
lemma traces_column (haccepted : r.IsAccepted) (hsubject : subject.IsOf r) {item : Output}
    {column : String}
    (hitem : ∀ scope, item.references scope = [⟨subject.entity.table, some column, scope⟩])
    (hcolumn : column = subject.entity.primaryKey ∨ subject.entity.softDelete = some column ∨
      ∃ p, subject.parent = some p ∧ column = p.column)
    (hscope : Keyed.find? subject.entity.table scope = some subject.entity.table) :
    r.Traces subject request (scope, item) := by
  apply traces_own haccepted hsubject ?_ hscope
  intro scope ref href
  rw [hitem, List.mem_singleton] at href
  subst href
  refine ⟨rfl, rfl, ?_⟩
  intro name hname
  exact Option.some.inj hname ▸ hcolumn

/-- An ordering term is traced wherever the table of the subject is in scope. -/
lemma traces_order (haccepted : r.IsAccepted) (hsubject : subject.IsOf r) {e : Expr}
    (he : e = .column subject.entity.table subject.entity.primaryKey ∨
      ∃ entry ∈ request.sorts, ∃ p, r.resolve subject.entity entry.column = .ok p ∧
        e = p.sortKey subject.entity.table entry.direction)
    (hscope : Keyed.find? subject.entity.table scope = some subject.entity.table) :
    r.Traces subject request (scope, .expr e) := by
  rcases he with rfl | ⟨entry, hentry, p, hp, rfl⟩
  · exact traces_column haccepted hsubject (fun _ => rfl) (.inl rfl) hscope
  · exact ⟨p.hops, .sort hentry hp,
      p.refers_sortKey haccepted hsubject.has hp entry.direction hscope⟩

end Registry

/-- Conditions that are put into another one become its terms. -/
lemma Sql.Condition.terms_foldl_add (c : Condition) (conditions : List Condition) :
    (conditions.foldl Condition.add c).terms = c.terms ++ conditions.map Condition.asTerm := by
  induction conditions generalizing c with
  | nil => simp
  | cons d rest ih =>
    rw [List.foldl_cons, ih, add, addExpr]
    simp

/-! ## Scopes -/

/-- The terms of the restriction are those of the condition and the guard. -/
lemma Scope.mem_terms_restriction {s : Scope} {e : Expr} :
    e ∈ s.restriction.terms ↔ e ∈ s.condition.terms ∨ s.guard? = some e := by
  rw [restriction]
  cases s.guard? with
  | none => simp [Condition.addExpr?]
  | some guard => simp [Condition.addExpr?, Condition.addExpr, eq_comm]

/-- The filter of a statement has the terms of the restriction. -/
lemma Scope.mem_terms_of_filter? {s : Scope} {c : Condition} (h : s.filter? = some c) :
    c.terms = s.restriction.terms := by
  unfold filter? at h
  split at h
  · cases h
  · rw [← Option.some.inj h]

/-- The condition of the parent is traced wherever the table of the subject is in scope. -/
lemma Subject.IsOf.traces_parentConditions (hsubject : subject.IsOf r) (haccepted : r.IsAccepted)
    {parents : List Condition} (h : subject.parentConditions = .ok parents)
    (hscope : Keyed.find? subject.entity.table scope = some subject.entity.table) :
    ∀ c ∈ parents, r.Traces subject request (scope, .expr c.asTerm) := by
  unfold parentConditions at h
  split at h
  · rw [← Except.ok.inj h]
    exact List.forall_mem_nil _
  · next p hp =>
    obtain ⟨key, -, h⟩ := bind_eq_ok.mp h
    rw [← pure_eq_ok.mp h, List.forall_mem_singleton]
    exact Registry.traces_column haccepted hsubject (fun _ => rfl) (.inr (.inr ⟨p, hp, rfl⟩)) hscope

/-- The condition of a selection is traced wherever the table of the subject is in scope. -/
lemma Subject.IsOf.traces_selectionConditions (hsubject : subject.IsOf r)
    (haccepted : r.IsAccepted) {selections : List Condition}
    (h : request.selectionConditions subject.entity = .ok selections)
    (hscope : Keyed.find? subject.entity.table scope = some subject.entity.table) :
    ∀ c ∈ selections, r.Traces subject request (scope, .expr c.asTerm) := by
  unfold Request.selectionConditions at h
  split at h
  · rw [← Except.ok.inj h]
    exact List.forall_mem_nil _
  · obtain ⟨ids, -, h⟩ := bind_eq_ok.mp h
    rw [← pure_eq_ok.mp h, List.forall_mem_singleton]
    exact Registry.traces_column haccepted hsubject (fun _ => rfl) (.inl rfl) hscope

namespace Registry.Stages

variable {start : Scope} {conditions : List Condition} {selected : List ScopeChange}

/-- The conditions of the filters are traced wherever the table of the subject is in scope. -/
lemma traces_filters (h : r.Stages subject request q start conditions selected)
    (haccepted : r.IsAccepted) (hsubject : subject.IsOf r)
    (hscope : Keyed.find? subject.entity.table scope = some subject.entity.table) :
    ∀ c ∈ conditions, r.Traces subject request (scope, .expr c.asTerm) := by
  intro c hc
  obtain ⟨htable, -⟩ := h.start_spec
  obtain ⟨entry, hentry, p, hp, hcompile⟩ := exists_of_mem_forall₂ h.filters hc
  rw [htable] at hcompile
  have hrefers := FilterNode.refers_entry haccepted hsubject.has hp hcompile hscope
  exact ⟨p.hops, .filter (List.mem_of_mem_filter hentry) hp hcompile,
    Condition.refers_asTerm.mpr hrefers⟩

/-- **The scope of a compiled request** without custom filter: all that it restricts and orders by
is traced wherever the table of the subject is in scope, and there is nothing else in it.

**Proof sketch.** The conditions of the parent and of the selection and the guard test single columns
of the subject. The others are those of the filters (`FilterNode.refers_entry`), and the ordering is
by sort keys (`ColumnPath.refers_sortKey`). -/
theorem traces_scope (h : r.Stages subject request q start conditions selected)
    (haccepted : r.IsAccepted) (hsubject : subject.IsOf r)
    (hhook : r.hook? subject.entity.name = none)
    (hscope : Keyed.find? subject.entity.table scope = some subject.entity.table) :
    q.scope.groups = [] ∧ q.scope.outputs = [] ∧
      (∀ e ∈ q.scope.restriction.terms, r.Traces subject request (scope, .expr e)) ∧
      ∀ t ∈ q.scope.orders, r.Traces subject request (scope, .expr t.expr) := by
  obtain ⟨parents, selections, hparents, hselections, hq⟩ := h.exists_restrictAll hhook
  obtain ⟨orders, offset, limit, hfresh, horders⟩ := r.exists_unrestricted_eq subject.entity request
  rw [hfresh] at hq
  rw [hq]
  refine ⟨rfl, rfl, ?_, ?_⟩
  · intro e he
    rcases Scope.mem_terms_restriction.mp he with he | hguard
    · rw [Scope.restrictAll, Condition.terms_foldl_add] at he
      have hnothing : (Subject.freshScope subject.entity).condition.terms = [] := rfl
      rw [hnothing, List.nil_append] at he
      obtain ⟨c, hc, rfl⟩ := List.mem_map.mp he
      rw [List.mem_append, List.mem_append] at hc
      rcases hc with (hc | hc) | hc
      · exact hsubject.traces_parentConditions haccepted hparents hscope c hc
      · exact h.traces_filters haccepted hsubject hscope c hc
      · exact hsubject.traces_selectionConditions haccepted hselections hscope c hc
    · unfold Scope.guard? at hguard
      split at hguard
      · next column hcolumn _ =>
        rw [← Option.some.inj hguard]
        have hsoft : subject.entity.softDelete = some column := hcolumn
        exact Registry.traces_column haccepted hsubject (fun _ => rfl) (.inr (.inl hsoft)) hscope
      · cases hguard
  · intro t ht
    exact Registry.traces_order haccepted hsubject (horders t ht) hscope

end Registry.Stages

/-! ## Statements -/

namespace Registry.Stages

variable {start : Scope} {conditions : List Condition} {selected : List ScopeChange}

/-- A statement that filters by the scope of a request is traced, when its output, its joins and its
ordering are and when the table of the subject is in scope behind its joins. -/
lemma traces_items (h : r.Stages subject request q start conditions selected)
    (haccepted : r.IsAccepted) (hsubject : subject.IsOf r)
    (hhook : r.hook? subject.entity.name = none) {s : Select} (hfilter : s.filter = q.scope.filter?)
    (hgroups : s.groups ⊆ q.scope.groupColumns)
    (hscope : Keyed.find? subject.entity.table s.scope = some subject.entity.table)
    (hjoins : ∀ item ∈ onItems [(s.table, s.table)] s.joins, r.Traces subject request item)
    (houtputs : ∀ o ∈ s.outputs, r.Traces subject request (s.scope, o))
    (horders : ∀ t ∈ s.orders, r.Traces subject request (s.scope, .expr t.1)) :
    ∀ item ∈ s.items, r.Traces subject request item := by
  obtain ⟨hnone, -, hterms, -⟩ := h.traces_scope haccepted hsubject hhook hscope
  refine s.forall_mem_items.mpr ⟨hjoins, houtputs, ?_, ?_, horders⟩
  · intro c hc e he
    rw [hfilter] at hc
    rw [Scope.mem_terms_of_filter? hc] at he
    exact hterms e he
  · intro e he
    have hmem : e ∈ q.scope.groups.map q.scope.column := hgroups he
    simp [hnone] at hmem

end Registry.Stages

/-- The joins and the value of a listing are traced, along the path of the listed column.

**Proof sketch.** Each join brings its table into scope for its own condition and for what follows.
The last of them is the one of the value. -/
lemma Registry.traces_listing (haccepted : r.IsAccepted) (hsubject : subject.IsOf r)
    {column : String} {p : ColumnPath} (hcolumn : request.column = some column)
    (hp : r.resolve subject.entity column = .ok p)
    (hscope : Keyed.find? subject.entity.table scope = some subject.entity.table) :
    (∀ item ∈ onItems scope (p.joins subject.entity.table), r.Traces subject request item) ∧
    r.Traces subject request (scopeThrough scope (p.joins subject.entity.table),
      .named (p.expr (p.leafLabel subject.entity.table)) valueName) := by
  obtain ⟨reached, hroute, hleaf⟩ := exists_route_of_resolve hp subject.entity.table
  obtain ⟨hjoins, hend⟩ :=
    hroute.refers_onItems haccepted hsubject.has (fun _ href => href) hscope
  refine ⟨?_, ?_⟩
  · intro item hitem
    obtain ⟨join, hjoin, hon⟩ := exists_join_of_mem_onItems hitem
    refine ⟨p.hops, ?_, hjoins item hitem⟩
    rw [hon]
    exact .joined hcolumn hp hjoin
  · refine ⟨p.hops, .listed hcolumn hp, ?_⟩
    exact ColumnPath.refers_expr.mpr (hleaf _ hend)

/-- What takes no column at all is traced. -/
lemma Registry.traces_of_references_eq_nil {item : Output}
    (h : ∀ scope, item.references scope = []) : r.Traces subject request (scope, item) := by
  refine ⟨[], .own ?_, ?_⟩
  · intro scope ref href
    rw [h] at href
    cases href
  · intro ref href
    rw [h] at href
    cases href

namespace Registry.Stages

variable {start : Scope} {conditions : List Condition} {selected : List ScopeChange}

/-- In a statement without joins the table of the subject is in scope. -/
lemma find?_table (h : r.Stages subject request q start conditions selected) :
    Keyed.find? subject.entity.table [(q.scope.table, q.scope.table)] =
      some subject.entity.table := by
  rw [h.table_eq]
  exact Keyed.find?_cons_self _ _ _

/-- The page shows the rows of the subject and orders them by traced terms. -/
lemma traces_page (h : r.Stages subject request q start conditions selected)
    (haccepted : r.IsAccepted) (hsubject : subject.IsOf r)
    (hhook : r.hook? subject.entity.name = none) :
    ∀ item ∈ q.page.items, r.Traces subject request item := by
  obtain ⟨hgroups, houtputs, -, horders⟩ := h.traces_scope haccepted hsubject hhook h.find?_table
  have hgrouped : q.scope.isGrouped = false := by simp [Scope.isGrouped, hgroups]
  have houtput : q.scope.pageStatement.outputs = [.row q.scope.table] := by
    simp [Scope.pageStatement, hgrouped, houtputs]
  refine h.traces_items (s := q.scope.pageStatement) haccepted hsubject hhook rfl
    (List.Subset.refl _) h.find?_table (List.forall_mem_nil _) ?_ ?_
  · rw [houtput, List.forall_mem_singleton]
    refine Registry.traces_own haccepted hsubject ?_ h.find?_table
    intro scope ref href
    rw [Output.references, List.mem_singleton] at href
    subst href
    refine ⟨h.table_eq, rfl, ?_⟩
    intro column hcolumn
    cases hcolumn
  · intro t ht
    obtain ⟨term, hterm, rfl⟩ := List.mem_map.mp ht
    exact horders term hterm

/-- The total counts the rows of the subject, in no order. -/
lemma traces_total (h : r.Stages subject request q start conditions selected)
    (haccepted : r.IsAccepted) (hsubject : subject.IsOf r)
    (hhook : r.hook? subject.entity.name = none) :
    ∀ item ∈ q.total.items, r.Traces subject request item := by
  obtain ⟨hgroups, -⟩ := h.traces_scope haccepted hsubject hhook h.find?_table
  have hgrouped : q.scope.isGrouped = false := by simp [Scope.isGrouped, hgroups]
  have htotal : q.total = .select { q.scope.rows with outputs := [.expr .countRows] } := by
    rw [Query.total, Scope.countStatement, hgrouped]
    rfl
  rw [htotal]
  refine h.traces_items haccepted hsubject hhook rfl (List.Subset.refl _) h.find?_table
    (List.forall_mem_nil _) ?_ (List.forall_mem_nil _)
  exact List.forall_mem_singleton.mpr (Registry.traces_of_references_eq_nil fun _ => rfl)

/-- A listing joins the tables along its column and orders the values by themselves. -/
lemma traces_of_listing (h : r.Stages subject request q start conditions selected)
    (haccepted : r.IsAccepted) (hsubject : subject.IsOf r)
    (hhook : r.hook? subject.entity.name = none) {allowed : List String} {l : Listing}
    (hl : q.listing r allowed = .ok l) :
    ∀ item ∈ l.statement.items, r.Traces subject request item := by
  obtain ⟨hlscope, column, hcolumn, hpath⟩ := Query.IsStatement.listing_spec hl
  rw [h.request_eq] at hcolumn
  rw [h.subject_eq] at hpath
  have hltable : l.scope.table = subject.entity.table := by rw [hlscope, h.table_eq]
  have hbase : Keyed.find? subject.entity.table [(l.scope.table, l.scope.table)] =
      some subject.entity.table := by rw [hlscope, h.find?_table]
  obtain ⟨hjoins, hvalue⟩ := Registry.traces_listing haccepted hsubject hcolumn hpath hbase
  rw [← hltable] at hjoins hvalue
  have hscope : Keyed.find? subject.entity.table l.statement.body.scope =
      some subject.entity.table := by
    rw [← hltable] at hbase ⊢
    exact (find?_scopeThrough_joinsAlong (Nat.le_refl _) _).trans hbase
  have hfilter : l.statement.body.filter = q.scope.filter? := by rw [← hlscope]; rfl
  refine h.traces_items haccepted hsubject hhook hfilter (List.nil_subset _) hscope hjoins ?_ ?_
  · exact List.forall_mem_singleton.mpr hvalue
  · intro t ht
    have hterm : t ∈ if !l.path.isDocument then [(Expr.output valueName, Direction.asc)] else [] :=
      ht
    split at hterm
    · rw [List.mem_singleton.mp hterm]
      exact Registry.traces_of_references_eq_nil fun _ => rfl
    · cases hterm

end Registry.Stages

/-- **All parts of all statements are traced.**

**Proof sketch.** Page and total are about the table of the subject alone. A listing joins the tables
along its column, and the names of these tables are longer than that of the subject, which is
therefore still in scope for the restriction. -/
theorem Query.IsStatement.traces {start : Scope} {conditions : List Condition}
    {selected : List ScopeChange} (h : r.Stages subject request q start conditions selected)
    (haccepted : r.IsAccepted) (hsubject : subject.IsOf r)
    (hhook : r.hook? subject.entity.name = none) {statement : Statement}
    (hs : q.IsStatement r statement) :
    ∀ item ∈ statement.items, r.Traces subject request item := by
  cases hs with
  | page => exact h.traces_page haccepted hsubject hhook
  | total => exact h.traces_total haccepted hsubject hhook
  | listing hl => exact h.traces_of_listing haccepted hsubject hhook hl

/-- **References are bound to what is meant.** In every statement of a request that compiles without
custom filter, each column is taken from a table in scope, and the innermost table of its name is
that of one entity: the one that a part of the column id behind it leads to, from the subject on.
Along one path all names are different, and the last of them is the one that the value is taken
from.

**Proof sketch.** All parts of the statements are traced (`Query.IsStatement.traces`). Names grow along a
path, so a name tells how far the hops are to be followed (`StandsFor.eq`, `nodup_labels`). -/
theorem Registry.references_are_bound (haccepted : r.IsAccepted) (hsubject : subject.IsOf r)
    (hhook : r.hook? subject.entity.name = none) (h : r.compile subject request = .ok q) :
    (∀ statement, q.IsStatement r statement → ∀ item ∈ statement.items,
      ∃ hops, r.Origin subject request hops item.2 ∧ ∀ ref ∈ item.2.references item.1,
        ∃! e, ref.StandsFor r subject.entity.table subject.entity hops e) ∧
    ∀ (p : ColumnPath) (base : String), (base :: (p.joins base).map Join.label).Nodup ∧
      (base :: (p.joins base).map Join.label).getLast? = some (p.leafLabel base) := by
  obtain ⟨start, conditions, selected, hstages⟩ := compile_spec h
  refine ⟨?_, fun p base => ⟨nodup_labels base p.hops, getLast?_labels base p.hops⟩⟩
  intro statement hs item hitem
  obtain ⟨hops, horigin, hsound⟩ := hs.traces hstages haccepted hsubject hhook item hitem
  refine ⟨hops, horigin, ?_⟩
  intro ref href
  obtain ⟨e, hstands, -⟩ := hsound ref href
  exact ⟨e, hstands, fun e' hstands' => hstands'.eq hstands⟩

/-- Keepers of flamingos with the keepers of other flamingos, in filters, in the ordering and in the
listed column. -/
def Zoo.fellowKeepers : Request where
  filters := [
    ("flamingos.keeper.flamingos.name",
      .leaf { filterType := "set", values := [.string "Andy", .null] }),
    ("flamingos.keeper.name",
      .leaf { filterType := "text", operator := some "contains", filter := some (.string "Ann") })]
  sorts := [⟨"flamingos.keeper.flamingos.keeper.name", .desc⟩, ⟨"flamingos.name", .asc⟩]
  column := some "flamingos.keeper.name"

/-- Relations that lead back and forth, over the same names in filters, ordering and joins. -/
theorem Registry.references_are_bound_keepers :
    ∃ r q, Zoo.registry = .ok r ∧ r.hook? Zoo.keepers.name = none ∧
      r.compile { entity := Zoo.keepers } Zoo.fellowKeepers = .ok q ∧
      ∀ statement, q.IsStatement r statement → ∀ item ∈ statement.items,
        ∃ hops, r.Origin { entity := Zoo.keepers } Zoo.fellowKeepers hops item.2 ∧
          ∀ ref ∈ item.2.references item.1, ∃! e, ref.StandsFor r "keepers" Zoo.keepers hops e := by
  have haccepted : ∀ r, Zoo.registry = .ok r → r.IsAccepted := fun _ => isAccepted_of_ofEntities
  refine ⟨_, _, rfl, rfl, rfl, ?_⟩
  exact (Registry.references_are_bound (haccepted _ rfl) (.inl ⟨"keepers", rfl⟩) rfl rfl).1

/-- **References are declared, or guards against deleted rows.** In every statement of a request that
compiles without custom filter, the column of each reference is declared by the entity that the
reference stands for, unless it is the column that marks deleted rows of this entity. Where these
columns are declared, all references are.

**Proof sketch.** All parts of the statements are traced (`Query.IsStatement.traces`). -/
theorem Registry.references_are_declared (haccepted : r.IsAccepted) (hsubject : subject.IsOf r)
    (hhook : r.hook? subject.entity.name = none) (h : r.compile subject request = .ok q) :
    ∀ statement, q.IsStatement r statement → ∀ item ∈ statement.items,
      ∃ hops, r.Origin subject request hops item.2 ∧ ∀ ref ∈ item.2.references item.1,
        ∃ e, ref.StandsFor r subject.entity.table subject.entity hops e ∧
          (∀ column, ref.column = some column →
            e.Declares column ∨ e.softDelete = some column) ∧
          ((∀ guard, e.softDelete = some guard → e.Declares guard) →
            ∀ column, ref.column = some column → e.Declares column) := by
  obtain ⟨start, conditions, selected, hstages⟩ := compile_spec h
  intro statement hs item hitem
  obtain ⟨hops, horigin, hsound⟩ := hs.traces hstages haccepted hsubject hhook item hitem
  refine ⟨hops, horigin, ?_⟩
  intro ref href
  obtain ⟨e, hstands, hcolumn⟩ := hsound ref href
  refine ⟨e, hstands, hcolumn, ?_⟩
  intro hguard column hname
  rcases hcolumn column hname with hdeclared | hsoft
  · exact hdeclared
  · exact hguard column hsoft

/-- The guards of flamingos are declared, so all references are. -/
theorem Registry.references_are_declared_keepers :
    ∃ r q, Zoo.registry = .ok r ∧ r.hook? Zoo.keepers.name = none ∧
      r.compile { entity := Zoo.keepers } Zoo.fellowKeepers = .ok q ∧
      ∀ statement, q.IsStatement r statement → ∀ item ∈ statement.items,
        ∃ hops, r.Origin { entity := Zoo.keepers } Zoo.fellowKeepers hops item.2 ∧
          ∀ ref ∈ item.2.references item.1, ∃ e, ref.StandsFor r "keepers" Zoo.keepers hops e ∧
            (∀ column, ref.column = some column →
              e.Declares column ∨ e.softDelete = some column) ∧
            ((∀ guard, e.softDelete = some guard → e.Declares guard) →
              ∀ column, ref.column = some column → e.Declares column) := by
  have haccepted : ∀ r, Zoo.registry = .ok r → r.IsAccepted := fun _ => isAccepted_of_ofEntities
  refine ⟨_, _, rfl, rfl, rfl, ?_⟩
  exact Registry.references_are_declared (haccepted _ rfl) (.inl ⟨"keepers", rfl⟩) rfl rfl

/-- Birds, of which deleted ones are marked in a column that is not declared. -/
def Zoo.birds : Entity where
  name := "birds"
  softDelete := some "gone"
  columns := [⟨"id", .integer⟩]

/-- The schema of birds is accepted, and the page of all birds refers to the column. -/
theorem Registry.guard_not_declared :
    ∃ r q, Registry.ofEntities [Zoo.birds] = .ok r ∧ r.hook? Zoo.birds.name = none ∧
      r.compile { entity := Zoo.birds } {} = .ok q ∧
      ∃ ref ∈ q.page.references, ref.table? = some "birds" ∧ ref.column = some "gone" ∧
        ¬ Zoo.birds.Declares "gone" := by
  refine ⟨_, _, rfl, rfl, rfl, ⟨"birds", some "gone", [("birds", "birds")]⟩, ?_, rfl, rfl, ?_⟩
  · -- the row of the subject comes first, then the guard, then the primary key of the ordering
    exact List.mem_cons_of_mem _ List.mem_cons_self
  · rintro ⟨c, hc, hname⟩
    rw [List.mem_singleton.mp hc] at hname
    simp at hname

end DataGrid
