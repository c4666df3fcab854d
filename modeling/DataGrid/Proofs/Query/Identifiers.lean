import DataGrid.Proofs.Path.Declared

/-!
# The names of compiled requests

On an entity without custom filter, a compiled request is a scope that is restricted by conditions
and ordered by sort keys, and all names in them come from column ids. A column id stands for what the
schema declares, so nothing else can stand as a name in a page, a total or a value listing.

## Main definitions

* `DataGrid.Scope.restrictAll` — a scope restricted by several conditions.
* `DataGrid.Registry.unrestricted` — the scope of a request before anything restricts it.

## Main results

* `DataGrid.FilterNode.namedBy_entry` — the names of a filter are declared.
* `DataGrid.Registry.Stages.exists_restrictAll` — a compiled request without custom filter is a scope
  with conditions.
* `DataGrid.Registry.Stages.exists_customized_eq` — what is done to the scope that a custom filter
  leaves.
* `DataGrid.Query.IsStatement.namedBy` — the names of all statements are declared.
-/

namespace DataGrid

open Sql

/-! ## Filters -/

section

variable {kind : String → Prop} {p : ColumnPath} {label : String} {e : Expr}

/-- What leaf filters compare brings the name of a type at most. -/
lemma ColumnPath.IsOperand.namedBy (htypes : ∀ type ∈ castTypes, kind type)
    (hcolumn : (p.expr label).NamedBy kind) (h : p.IsOperand label e) : e.NamedBy kind := by
  cases h with
  | plain => exact hcolumn
  | cast htype => exact (Expr.namedBy_cast _ _).mpr ⟨htypes _ htype, hcolumn⟩

/-- So do the tests that they become. -/
lemma ColumnPath.IsTest.namedBy (htypes : ∀ type ∈ castTypes, kind type)
    (hcolumn : (p.expr label).NamedBy kind) (h : p.IsTest label e) : e.NamedBy kind := by
  cases h with
  | isNull negated => exact (Expr.namedBy_isNull _ _).mpr hcolumn
  | isIn values => exact (Expr.namedBy_isIn _ _ _).mpr hcolumn
  | compare op v he =>
    exact (Expr.namedBy_compare _ _ _).mpr ⟨he.namedBy htypes hcolumn, Expr.namedBy_literal v⟩
  | like negated pattern he => exact (Expr.namedBy_like _ _ _).mpr (he.namedBy htypes hcolumn)

end

/-- **The names of a filter** on a declared path are declared. -/
theorem FilterNode.namedBy_entry {r : Registry} {base : String} {node : FilterNode} {p : ColumnPath}
    {c : Condition} (hp : p.IsDeclared r) (h : node.entry p base = .ok c) :
    c.NamedBy (r.Declares base) := by
  obtain ⟨predicate, hpredicate, h⟩ := bind_eq_ok.mp h
  have hnamed : predicate.NamedBy (r.Declares base) :=
    Condition.namedBy_iff.mpr (node.forall_terms_of_compile
      (fun _ he => he.namedBy (fun _ => .castType) hp.namedBy_expr)
      (fun _ _ _ => (Expr.namedBy_group _ _ _).mpr) hpredicate)
  have hrelated := hp.namedBy_related hnamed
  rw [← pure_eq_ok.mp h]
  split
  · next missing hmissing _ =>
    rw [Condition.namedBy_addExpr, Condition.namedBy_add]
    exact ⟨⟨Condition.namedBy_empty _ _, hrelated⟩, hp.namedBy_missing? hmissing⟩
  · exact hrelated

/-! ## Scopes with conditions -/

namespace Scope

/-- A scope restricted by several conditions. -/
def restrictAll (s : Scope) (conditions : List Condition) : Scope :=
  { s with condition := conditions.foldl Condition.add s.condition }

/-- Operations that add a condition each add all of them, and nothing else. -/
lemma applyAll_eq_restrictAll {s : Scope} {ops : List ScopeChange} {conditions : List Condition}
    (h : List.Forall₂ (fun op c => op.condition? s.table = some c) ops conditions) :
    s.applyAll ops = s.restrictAll conditions := by
  induction ops generalizing s conditions with
  | nil =>
    cases h
    rfl
  | cons op ops ih =>
    cases h with
    | @cons _ c _ conditions hop hops =>
      have hone : s.apply op = s.restrict c := by
        cases op <;> simp only [ScopeChange.condition?, Option.some.injEq, reduceCtorEq] at hop
        all_goals
          rw [← hop]
          rfl
      have hops' : List.Forall₂ (fun op c => op.condition? (s.restrict c).table = some c) ops
        conditions := hops
      rw [applyAll_cons, hone]
      exact ih hops

/-- The primary key completes the order of a scope whatever its conditions are. -/
lemma breakTies_restrictAll (s : Scope) (conditions : List Condition) (e : Entity) :
    (s.restrictAll conditions).breakTies e = (s.breakTies e).restrictAll conditions := by
  unfold breakTies
  cases hdone : s.isOrderedOn e.primaryKey || s.isGrouped with
  | _ =>
    have hdone' : ((s.restrictAll conditions).isOrderedOn e.primaryKey ||
      (s.restrictAll conditions).isGrouped) = _ := hdone
    rw [hdone']
    rfl

/-- A sort order does not look at the conditions of a scope. -/
lemma sort_restrictAll (s : Scope) (conditions : List Condition) (r : Registry) (e : Entity)
    (entries : List SortEntry) :
    ((s.restrictAll conditions).sort r e entries).scope =
      (s.sort r e entries).scope.restrictAll conditions := by
  have hterms : sortTerms r e (s.restrictAll conditions).table entries =
      sortTerms r e s.table entries := rfl
  unfold sort
  rw [hterms]
  generalize sortTerms r e s.table entries = found
  obtain ⟨terms, fault⟩ := found
  cases fault with
  | some f => rfl
  | none =>
    exact breakTies_restrictAll
      { s with orders := (if entries.isEmpty then s.orders else []) ++ terms } conditions e

/-- A window does not look at the conditions of a scope. -/
lemma windowFrom_restrictAll (s : Scope) (conditions : List Condition) (request : Request) :
    (s.restrictAll conditions).windowFrom request =
      (s.windowFrom request).restrictAll conditions := by
  unfold windowFrom
  split <;> rfl

end Scope

/-- The scope of a request before anything restricts it. -/
def Registry.unrestricted (r : Registry) (e : Entity) (request : Request) : Scope :=
  ((Subject.freshScope e).sort r e request.sorts).scope.windowFrom request

/-- The condition that a row belongs to the parent, if the subject has one. -/
def Subject.parentConditions (subject : Subject) : Except Fault (List Condition) :=
  match subject.parent with
  | none => .ok []
  | some p => do
    let key ← literal p.column p.key
    return [.ofExpr (.compare .eq (.column subject.entity.table p.column) (.literal key))]

/-- The condition that a row is selected, if the request has a selection. -/
def Request.selectionConditions (request : Request) (e : Entity) : Except Fault (List Condition) :=
  match Selection.ofRequest? request with
  | none => .ok []
  | some selection => do
    let ids ← selection.toggled.mapM (literal e.primaryKey)
    return [.ofExpr (.isIn (selection.mode = .except) (.column e.table e.primaryKey) ids)]

/-- The scope of a subject is restricted to the rows of the parent and by nothing else. -/
lemma Subject.exists_parentConditions_eq {subject : Subject} {start : Scope}
    (h : subject.scope = .ok start) :
    ∃ ops parents, start = (freshScope subject.entity).applyAll ops ∧
      subject.parentConditions = .ok parents ∧
      List.Forall₂ (fun op c => op.condition? subject.entity.table = some c) ops parents := by
  obtain ⟨ops, hstart, hops⟩ := subject.scope_spec h
  unfold parentConditions
  cases hparent : subject.parent with
  | none =>
    rw [hparent] at hops
    have hnone : ops = [] := hops
    exact ⟨ops, [], hstart, rfl, hnone ▸ List.Forall₂.nil⟩
  | some p =>
    rw [hparent] at hops
    obtain ⟨key, hkey, hops⟩ := hops
    exact ⟨ops, _, hstart, bind_eq_ok.mpr ⟨key, hkey, rfl⟩, hops ▸ .cons rfl .nil⟩

namespace Registry.Stages

variable {r : Registry} {subject : Subject} {request : Request} {q : Query} {start : Scope}
variable {conditions : List Condition} {selected : List ScopeChange}

/-- The operations of a selection restrict a scope to the selected rows. -/
lemma exists_selectionConditions_eq
    (h : r.Stages subject request q start conditions selected) :
    ∃ selections, request.selectionConditions subject.entity = .ok selections ∧
      List.Forall₂ (fun op c => op.condition? subject.entity.table = some c) selected
        selections := by
  obtain ⟨-, hkey, -⟩ := h.start_spec
  have hselection := h.selection
  unfold Request.selectionConditions
  cases hrequest : Selection.ofRequest? request with
  | none =>
    rw [hrequest] at hselection
    have hnone : selected = [] := hselection
    exact ⟨[], rfl, hnone ▸ List.Forall₂.nil⟩
  | some selection =>
    rw [hrequest, hkey] at hselection
    obtain ⟨ids, hids, hselected⟩ := hselection
    exact ⟨_, bind_eq_ok.mpr ⟨ids, hids, rfl⟩,
      hselected ▸ .cons (selection.condition?_operation _ _ ids) .nil⟩

/-- **A compiled request without custom filter** is an ordered scope with the conditions of the
parent, of the filters and of the selection.

**Proof sketch.** Each stage in front of the sort order performs operations that add one condition
each, and neither the sort order nor the window looks at conditions. -/
theorem exists_restrictAll (h : r.Stages subject request q start conditions selected)
    (hhook : r.hook? subject.entity.name = none) :
    ∃ parents selections, subject.parentConditions = .ok parents ∧
      request.selectionConditions subject.entity = .ok selections ∧
      q.scope = (r.unrestricted subject.entity request).restrictAll
        (parents ++ conditions ++ selections) := by
  obtain ⟨ops, parents, hstart, hparents, hops⟩ := subject.exists_parentConditions_eq h.start_eq
  obtain ⟨selections, hselections, hselected⟩ := h.exists_selectionConditions_eq
  have hall : List.Forall₂ (fun op c => op.condition? subject.entity.table = some c)
      (ops ++ (conditions.map .restrict ++ selected)) (parents ++ (conditions ++ selections)) := by
    refine List.rel_append hops (List.rel_append ?_ hselected)
    exact List.forall₂_map_left_iff.mpr (List.forall₂_same.mpr fun _ _ => rfl)
  refine ⟨parents, selections, hparents, hselections, ?_⟩
  rw [h.scope_eq, Registry.operations_of_hook?_eq_none hhook, List.nil_append, hstart,
    ← Scope.applyAll_append, Scope.applyAll_eq_restrictAll hall, Scope.sort_restrictAll,
    Scope.windowFrom_restrictAll, List.append_assoc]
  rfl

/-- **Behind the custom filter** a compiled request is ordered and gets its window, and nothing else
but conditions is added.

**Proof sketch.** The filters and the selection perform operations that add one condition each, and
neither the sort order nor the window looks at conditions. -/
theorem exists_customized_eq (h : r.Stages subject request q start conditions selected)
    {customized : Scope}
    (hcustom : (r.customize subject.entity request.customFilters start).toExcept =
      .ok customized) :
    ∃ added, q.scope =
      ((customized.sort r subject.entity request.sorts).scope.windowFrom request).restrictAll
        added := by
  obtain ⟨selections, -, hselected⟩ := h.exists_selectionConditions_eq
  have hcustomized := Registry.customize_spec h.start_eq hcustom
  have htable : customized.table = subject.entity.table := by
    rw [hcustomized, Scope.table_applyAll]
    exact h.start_spec.1
  have hall : List.Forall₂ (fun op c => op.condition? customized.table = some c)
      (conditions.map .restrict ++ selected) (conditions ++ selections) := by
    rw [htable]
    refine List.rel_append ?_ hselected
    exact List.forall₂_map_left_iff.mpr (List.forall₂_same.mpr fun _ _ => rfl)
  refine ⟨conditions ++ selections, ?_⟩
  rw [h.scope_eq, List.append_assoc, Scope.applyAll_append, ← hcustomized,
    Scope.applyAll_eq_restrictAll hall, Scope.sort_restrictAll, Scope.windowFrom_restrictAll]

end Registry.Stages

/-! ## The names of a scope -/

/-- All names in a scope are of the given kind. -/
structure Scope.NamedBy (kind : String → Prop) (s : Scope) : Prop where
  table : kind s.table
  softDelete : ∀ name, s.softDelete = some name → kind name
  condition : s.condition.NamedBy kind
  orders : ∀ t ∈ s.orders, t.expr.NamedBy kind
  groups : ∀ name ∈ s.groups, kind name
  outputs : ∀ o ∈ s.outputs, o.1.NamedBy kind ∧ kind o.2

namespace Scope

variable {kind : String → Prop} {s : Scope}

/-- A scope restricted by conditions has their names besides its own. -/
lemma NamedBy.restrictAll (h : s.NamedBy kind) {conditions : List Condition}
    (hconditions : ∀ c ∈ conditions, c.NamedBy kind) :
    (s.restrictAll conditions).NamedBy kind := by
  have hfold : ∀ (conditions : List Condition) (c : Condition), c.NamedBy kind →
      (∀ d ∈ conditions, d.NamedBy kind) → (conditions.foldl Condition.add c).NamedBy kind := by
    intro conditions
    induction conditions with
    | nil => exact fun _ hc _ => hc
    | cons d rest ih =>
      intro c hc hall
      rw [List.forall_mem_cons] at hall
      exact ih (c.add d) (Condition.namedBy_add.mpr ⟨hc, hall.1⟩) hall.2
  exact { h with condition := hfold conditions s.condition h.condition hconditions }

/-- A column of the table has the names of both. -/
lemma NamedBy.column (h : s.NamedBy kind) {name : String} (hname : kind name) :
    (s.column name).NamedBy kind :=
  (Expr.namedBy_column _ _).mpr ⟨h.table, hname⟩

/-- The filter of a scope has the names of its condition and that of the guard. -/
lemma NamedBy.filter? (h : s.NamedBy kind) : ∀ c, s.filter? = some c → c.NamedBy kind := by
  intro c hc
  unfold Scope.filter? at hc
  split at hc
  · cases hc
  · rw [← Option.some.inj hc, restriction, Condition.namedBy_addExpr?]
    refine ⟨h.condition, fun e he => ?_⟩
    unfold guard? at he
    split at he
    · next name hname _ =>
      rw [← Option.some.inj he, Expr.namedBy_isNull]
      exact h.column (h.softDelete name hname)
    · cases he

/-- The group columns have the names of the groups. -/
lemma NamedBy.groupColumns (h : s.NamedBy kind) : ∀ e ∈ s.groupColumns, e.NamedBy kind := by
  intro e he
  obtain ⟨name, hname, rfl⟩ := List.mem_map.mp he
  exact h.column (h.groups name hname)

/-- The page of a scope has its names. -/
lemma NamedBy.pageStatement (h : s.NamedBy kind) :
    ∀ name ∈ s.pageStatement.identifiers, kind name := by
  refine (Select.namedBy_iff _).mpr
    ⟨h.table, fun o ho => ?_, List.forall_mem_nil _, h.filter?, h.groupColumns, fun t ht => ?_⟩
  · rcases List.mem_append.mp ho with ho | ho
    · split at ho
      · obtain ⟨e, he, rfl⟩ := List.mem_map.mp ho
        exact h.groupColumns e he
      · rw [List.mem_singleton.mp ho]
        exact List.forall_mem_singleton.mpr h.table
    · obtain ⟨named, hnamed, rfl⟩ := List.mem_map.mp ho
      obtain ⟨hexpr, hname⟩ := h.outputs named hnamed
      exact List.forall_mem_cons.mpr ⟨hname, hexpr⟩
  · obtain ⟨term, hterm, rfl⟩ := List.mem_map.mp ht
    exact h.orders term hterm

/-- The total of a scope has its names and the one that groups are counted through. -/
lemma NamedBy.countStatement (h : s.NamedBy kind) (hlabel : kind countLabel) :
    s.countStatement.NamedBy kind := by
  have hrows : ∀ outputs : List Output,
      (∀ o ∈ outputs, ∀ name ∈ o.identifiers, kind name) →
        ∀ name ∈ ({ s.rows with outputs := outputs } : Select).identifiers, kind name :=
    fun outputs houtputs => (Select.namedBy_iff _).mpr
      ⟨h.table, houtputs, List.forall_mem_nil _, h.filter?, h.groupColumns, List.forall_mem_nil _⟩
  unfold Scope.countStatement
  split
  · refine List.forall_mem_cons.mpr ⟨hlabel, hrows _ fun o ho => ?_⟩
    obtain ⟨e, he, rfl⟩ := List.mem_map.mp ho
    exact h.groupColumns e he
  · exact hrows _ (List.forall_mem_singleton.mpr Expr.namedBy_countRows)

end Scope

/-! ## The names of a request -/

section

variable {r : Registry} {subject : Subject} {request : Request} {q : Query}

/-- The column by which rows belong to a parent is declared. -/
lemma Subject.IsOf.declares_parent {base : String} (h : subject.IsOf r) {p : Parent}
    (hp : subject.parent = some p) : r.Declares base p.column := by
  rcases h with ⟨name, h⟩ | ⟨parent, relation, key, h⟩
  · obtain ⟨e, -, h⟩ := bind_eq_ok.mp h
    rw [← pure_eq_ok.mp h] at hp
    cases hp
  · obtain ⟨source, hsource, h⟩ := bind_eq_ok.mp h
    split at h
    · cases h
    · next link hlink =>
      obtain ⟨e, -, h⟩ := bind_eq_ok.mp h
      rw [← pure_eq_ok.mp h] at hp
      rw [← Option.some.inj hp]
      exact .foreignKey (Registry.has_of_entity hsource) (List.mem_of_find?_eq_some hlink)

/-- The condition of the parent has declared names. -/
lemma Subject.IsOf.namedBy_parentConditions (h : subject.IsOf r) {parents : List Condition}
    (hparents : subject.parentConditions = .ok parents) :
    ∀ c ∈ parents, c.NamedBy (r.Declares subject.entity.table) := by
  unfold parentConditions at hparents
  split at hparents
  · rw [← Except.ok.inj hparents]
    exact List.forall_mem_nil _
  · next p hp =>
    obtain ⟨key, -, hparents⟩ := bind_eq_ok.mp hparents
    rw [← pure_eq_ok.mp hparents, List.forall_mem_singleton]
    simp only [Condition.namedBy_ofExpr, Expr.namedBy_compare, Expr.namedBy_column,
      Expr.namedBy_literal, and_true]
    exact ⟨.table h.has, h.declares_parent hp⟩

/-- The condition of a selection has declared names. -/
lemma Request.namedBy_selectionConditions {e : Entity} (he : r.Has e)
    {selections : List Condition} (h : request.selectionConditions e = .ok selections) :
    ∀ c ∈ selections, c.NamedBy (r.Declares e.table) := by
  unfold selectionConditions at h
  split at h
  · rw [← Except.ok.inj h]
    exact List.forall_mem_nil _
  · obtain ⟨ids, -, h⟩ := bind_eq_ok.mp h
    rw [← pure_eq_ok.mp h, List.forall_mem_singleton]
    simp only [Condition.namedBy_ofExpr, Expr.namedBy_isIn, Expr.namedBy_column]
    exact ⟨.table he, .primaryKey he⟩

/-- Before anything restricts it, the scope of a request is that of the entity with an ordering and a
window. The ordering is by sort keys of the request and by the primary key. -/
lemma Registry.exists_unrestricted_eq (r : Registry) (e : Entity) (request : Request) :
    ∃ orders offset limit,
      r.unrestricted e request =
        { Subject.freshScope e with orders := orders, offset := offset, limit := limit } ∧
      ∀ t ∈ orders, t.expr = .column e.table e.primaryKey ∨
        ∃ entry ∈ request.sorts, ∃ p, r.resolve e entry.column = .ok p ∧
          t.expr = p.sortKey e.table entry.direction := by
  have horders : ∀ t ∈ ((Subject.freshScope e).sort r e request.sorts).scope.orders,
      t.expr = .column e.table e.primaryKey ∨ ∃ entry ∈ request.sorts, ∃ p,
        r.resolve e entry.column = .ok p ∧ t.expr = p.sortKey e.table entry.direction := by
    intro t ht
    rcases Scope.mem_orders_sort ht with hold | hfound
    · exact nomatch hold
    · exact hfound
  obtain ⟨orders, hsort⟩ := (Subject.freshScope e).exists_sort_eq r e request.sorts
  obtain ⟨offset, limit, hwindow⟩ :=
    ((Subject.freshScope e).sort r e request.sorts).scope.exists_windowFrom_eq request
  unfold Registry.unrestricted
  rw [hsort] at horders hwindow ⊢
  exact ⟨orders, offset, limit, hwindow, horders⟩

/-- Before anything restricts it, the scope of a request has declared names. -/
lemma Registry.namedBy_unrestricted {e : Entity} (he : r.Has e) (request : Request) :
    (r.unrestricted e request).NamedBy (r.Declares e.table) := by
  obtain ⟨orders, offset, limit, hscope, horders⟩ := r.exists_unrestricted_eq e request
  have hnamed : ∀ t ∈ orders, t.expr.NamedBy (r.Declares e.table) := by
    intro t ht
    rcases horders t ht with hkey | ⟨entry, -, p, hp, hterm⟩
    · rw [hkey]
      exact (Expr.namedBy_column _ _).mpr ⟨.table he, .primaryKey he⟩
    · rw [hterm]
      exact (Registry.isDeclared_of_resolve he hp).namedBy_sortKey entry.direction
  rw [hscope]
  exact ⟨.table he, fun _ hname => .softDelete he hname, Condition.namedBy_empty _ _, hnamed,
    List.forall_mem_nil _, List.forall_mem_nil _⟩

/-- **The scope of a compiled request** has declared names. -/
theorem Registry.Stages.namedBy_scope {start : Scope} {conditions : List Condition}
    {selected : List ScopeChange} (h : r.Stages subject request q start conditions selected)
    (hsubject : subject.IsOf r) (hhook : r.hook? subject.entity.name = none) :
    q.scope.NamedBy (r.Declares subject.entity.table) := by
  obtain ⟨parents, selections, hparents, hselections, hscope⟩ := h.exists_restrictAll hhook
  obtain ⟨htable, -⟩ := h.start_spec
  rw [hscope]
  refine (Registry.namedBy_unrestricted hsubject.has request).restrictAll fun c hc => ?_
  rcases List.mem_append.mp hc with hc | hc
  · rcases List.mem_append.mp hc with hc | hc
    · exact hsubject.namedBy_parentConditions hparents c hc
    · obtain ⟨entry, -, p, hp, hentry⟩ := exists_of_mem_forall₂ h.filters hc
      rw [htable] at hentry
      exact FilterNode.namedBy_entry (Registry.isDeclared_of_resolve hsubject.has hp) hentry
  · exact Request.namedBy_selectionConditions hsubject.has hselections c hc

/-- **The names of all statements** of a compiled request are declared.

**Proof sketch.** Page and total have the names of the scope (`Stages.namedBy_scope`) and at most the
one that groups are counted through. A listing joins the tables of a declared path and has its value
as the only output. -/
theorem Query.IsStatement.namedBy {start : Scope} {conditions : List Condition}
    {selected : List ScopeChange} (h : r.Stages subject request q start conditions selected)
    (hsubject : subject.IsOf r) (hhook : r.hook? subject.entity.name = none)
    {statement : Statement} (hs : q.IsStatement r statement) :
    statement.NamedBy (r.Declares subject.entity.table) := by
  have hscope := h.namedBy_scope hsubject hhook
  cases hs with
  | page => exact hscope.pageStatement
  | total => exact hscope.countStatement .total
  | @listing allowed l hl =>
    obtain ⟨hl, column, -, hpath⟩ := listing_spec hl
    rw [h.subject_eq] at hpath
    have hp := Registry.isDeclared_of_resolve hsubject.has hpath
    have htable : l.scope.table = subject.entity.table := by rw [hl, h.table_eq]
    have hkind : r.Declares subject.entity.table l.scope.table := by
      rw [htable]
      exact .table hsubject.has
    refine (Select.namedBy_iff l.statement.body).mpr
      ⟨hkind, List.forall_mem_singleton.mpr ?_, ?_, ?_, List.forall_mem_nil _, fun t ht => ?_⟩
    · refine List.forall_mem_cons.mpr ⟨.value, ?_⟩
      rw [htable]
      exact hp.namedBy_expr
    · exact namedBy_joinsAlong hp.hops (htable ▸ .base)
    · exact fun c hc => hscope.filter? c (hl ▸ hc)
    · have hterm : t ∈ if !l.path.isDocument then [(Expr.output valueName, Direction.asc)] else [] :=
        ht
      split at hterm
      · rw [List.mem_singleton.mp hterm]
        exact (Expr.namedBy_output _).mpr .value
      · exact nomatch hterm

end

end DataGrid
