import DataGrid.Proofs.Outcome
import DataGrid.Query.Compiled
import Mathlib.Data.List.Basic
import Mathlib.Tactic.Lemma

/-!
# The operations behind a scope

Whatever changes a scope, a custom filter or a stage of compilation, does so by operations on
scopes. Here each of them is given the list of the operations that it performs, so that a fact about
single operations becomes a fact about all that is compiled.

## Main definitions

* `DataGrid.Scope.applyAll` — operations one after the other.
* `DataGrid.Hook.operations` — the operations that a custom filter performs.
* `DataGrid.Registry.operations` — those of the custom filter that a request meets.

## Main results

* `DataGrid.Hook.run_scope` — a custom filter leaves the scope that its operations make.
* `DataGrid.Registry.compile_spec` — what compilation does, stage by stage.
* `DataGrid.Registry.arrange_eq_of_filter_eq` — the filter on the listed column plays no role.
-/

namespace DataGrid

open Sql

namespace Scope

/-! ## Operations one after the other -/

/-- Apply operations one after the other. -/
def applyAll (s : Scope) (ops : List ScopeChange) : Scope := ops.foldl Scope.apply s

/-- No operations leave the scope as it is. -/
@[simp] theorem applyAll_nil (s : Scope) : s.applyAll [] = s := rfl

/-- The first operation comes before the others. -/
@[simp] theorem applyAll_cons (s : Scope) (op : ScopeChange) (ops : List ScopeChange) :
    s.applyAll (op :: ops) = (s.apply op).applyAll ops := rfl

/-- Two lists of operations in a row. -/
@[simp] theorem applyAll_append (s : Scope) (ops ops' : List ScopeChange) :
    s.applyAll (ops ++ ops') = (s.applyAll ops).applyAll ops' := List.foldl_append

/-- No operation changes what the scope is a scope of. -/
@[simp] theorem table_apply (s : Scope) (op : ScopeChange) : (s.apply op).table = s.table := by
  cases op <;> rfl

/-- No operation changes the primary key. -/
@[simp] theorem primaryKey_apply (s : Scope) (op : ScopeChange) :
    (s.apply op).primaryKey = s.primaryKey := by
  cases op <;> rfl

/-- No operation changes the column of deletions. -/
@[simp] theorem softDelete_apply (s : Scope) (op : ScopeChange) :
    (s.apply op).softDelete = s.softDelete := by
  cases op <;> rfl

/-- Operations leave the table as it is. -/
@[simp] theorem table_applyAll (s : Scope) (ops : List ScopeChange) :
    (s.applyAll ops).table = s.table := by
  induction ops generalizing s with
  | nil => rfl
  | cons op ops ih => rw [applyAll_cons, ih, table_apply]

/-- Operations leave the primary key as it is. -/
@[simp] theorem primaryKey_applyAll (s : Scope) (ops : List ScopeChange) :
    (s.applyAll ops).primaryKey = s.primaryKey := by
  induction ops generalizing s with
  | nil => rfl
  | cons op ops ih => rw [applyAll_cons, ih, primaryKey_apply]

/-- Operations leave the column of deletions as it is. -/
@[simp] theorem softDelete_applyAll (s : Scope) (ops : List ScopeChange) :
    (s.applyAll ops).softDelete = s.softDelete := by
  induction ops generalizing s with
  | nil => rfl
  | cons op ops ih => rw [applyAll_cons, ih, softDelete_apply]

end Scope

/-! ## Stages as operations -/

/-- The operation that appends an ordering term of a path. -/
def OrderTerm.operation (t : OrderTerm) : ScopeChange :=
  match t.column with
  | some name => .orderBy name t.direction
  | none => .orderByExpr t.expr t.direction

/-- The operations of a sort order: an earlier ordering is dropped unless there are no entries, the
terms are appended, and the primary key makes the order total where that is needed. -/
def Scope.sortOperations (s : Scope) (r : Registry) (e : Entity) (entries : List SortEntry) :
    List ScopeChange :=
  let (terms, fault) := sortTerms r e s.table entries
  let ops := (if entries.isEmpty then [] else [.clearOrder]) ++ terms.map OrderTerm.operation
  let ordered := s.applyAll ops
  match fault with
  | some _ => ops
  | none =>
    if ordered.isOrderedOn e.primaryKey || ordered.isGrouped then ops
    else ops ++ [.orderBy e.primaryKey .asc]

/-- The operation of a selection whose identities are the given literals. -/
def Selection.operation (selection : Selection) (key : String) (ids : List Literal) :
    ScopeChange :=
  match selection.mode with
  | .only => .keepIn key ids
  | .except => .keepNotIn key ids

/-- The operations of a window. -/
def Window.operations (w : Window) : List ScopeChange := [.offset w.offset, .limit w.limit]

section

variable (r : Registry) (e : Entity) (given : List (String × Json))

mutual

/-- The operations that a step of a custom filter performs. -/
def HookStep.operations (s : Scope) : HookStep → List ScopeChange
  | .change c => [c]
  | .keepGiven column key => [.keepIn column (givenList given key)]
  | .keepNotGiven column key => [.keepNotIn column (givenList given key)]
  | .filter column node =>
    match r.resolve e column with
    | .error _ => []
    | .ok p =>
      match node.entry p s.table with
      | .error _ => []
      | .ok c => [.restrict c]
  | .sort entries => s.sortOperations r e entries
  | .select selection =>
    match selection.toggled.mapM (literal s.primaryKey) with
    | .error _ => []
    | .ok ids => [selection.operation s.primaryKey ids]
  | .window w => w.operations
  | .when key value steps =>
    if isGiven given key value then HookStep.operationsOf s steps else []
  | .tolerate step => HookStep.operations s step
  | .fail _ => []

/-- The operations that steps perform, up to the first step that fails. -/
def HookStep.operationsOf (s : Scope) : List HookStep → List ScopeChange
  | [] => []
  | step :: rest =>
    HookStep.operations s step ++
      match HookStep.run r e given s step with
      | ⟨changed, none⟩ => HookStep.operationsOf changed rest
      | ⟨_, some _⟩ => []

end

/-- The operations that a custom filter of the entity `e` performs. -/
def Hook.operations (hook : Hook) (s : Scope) : List ScopeChange :=
  HookStep.operationsOf r e given s hook

end

/-! ## What the stages leave -/

/-- Changes come to a scope when no fault stopped them. -/
lemma Progress.toExcept_eq_ok {p : Progress} {s : Scope} :
    p.toExcept = .ok s ↔ p.fault = none ∧ p.scope = s := by
  unfold toExcept
  cases p.fault with
  | none => simp
  | some f => simp

/-- A term that carries the name of a column orders by that column of the table. -/
def OrderTerm.IsFaithful (t : OrderTerm) (table : String) : Prop :=
  ∀ name, t.column = some name → t.expr = .column table name

/-- The term of a path carries the name of a column only where it orders by it. -/
lemma ColumnPath.orderTerm_isFaithful (p : ColumnPath) (table : String) (d : Direction) :
    (p.orderTerm table d).IsFaithful table := by
  intro name h
  unfold ColumnPath.orderTerm at h ⊢
  dsimp only at h ⊢
  split at h
  · cases h
  · next hdirect =>
    rw [Bool.or_eq_true, not_or] at hdirect
    have hhops : p.hops = [] := by simpa [ColumnPath.hasHops] using hdirect.1
    have hkeys : p.keys = [] := by simpa [ColumnPath.isNested] using hdirect.2
    rw [Option.some.injEq] at h
    rw [p.sortKey_of_hops_eq_nil hhops, ColumnPath.expr, hkeys, ← h]
    rfl

/-- The terms of a sort order carry names only where they order by columns. -/
lemma sortTerms_isFaithful (r : Registry) (e : Entity) (table : String)
    (entries : List SortEntry) :
    ∀ t ∈ (sortTerms r e table entries).1, t.IsFaithful table := by
  induction entries with
  | nil => simp [sortTerms]
  | cons entry rest ih =>
    rw [sortTerms]
    split
    · simp
    · next p _ =>
      intro t ht
      rcases List.mem_cons.mp ht with rfl | ht
      · exact p.orderTerm_isFaithful table entry.direction
      · exact ih t ht

namespace Scope

/-- Terms are appended by their operations. -/
lemma applyAll_map_operation (s : Scope) {terms : List OrderTerm}
    (h : ∀ t ∈ terms, t.IsFaithful s.table) :
    s.applyAll (terms.map OrderTerm.operation) = { s with orders := s.orders ++ terms } := by
  induction terms generalizing s with
  | nil => rw [List.append_nil]; rfl
  | cons t terms ih =>
    have hone : s.apply t.operation = { s with orders := s.orders ++ [t] } := by
      obtain ⟨e, d, column⟩ := t
      cases column with
      | none => rfl
      | some name =>
        have he : e = .column s.table name := h _ List.mem_cons_self name rfl
        rw [he]
        rfl
    have hrest := ih { s with orders := s.orders ++ [t] }
      fun u hu => h u (List.mem_cons_of_mem _ hu)
    rw [List.map_cons, applyAll_cons, hone, hrest, List.append_assoc]
    rfl

/-- A sort order leaves the scope that its operations make, also where it is interrupted. -/
theorem sort_scope (s : Scope) (r : Registry) (e : Entity) (entries : List SortEntry) :
    (s.sort r e entries).scope = s.applyAll (s.sortOperations r e entries) := by
  have hfaithful := sortTerms_isFaithful r e s.table entries
  unfold sort sortOperations
  generalize sortTerms r e s.table entries = found at hfaithful ⊢
  obtain ⟨terms, fault⟩ := found
  have hordered : s.applyAll
      ((if entries.isEmpty then [] else [.clearOrder]) ++ terms.map OrderTerm.operation) =
        { s with orders := (if entries.isEmpty then s.orders else []) ++ terms } := by
    rw [applyAll_append]
    split
    · exact s.applyAll_map_operation hfaithful
    · exact s.clearOrder.applyAll_map_operation hfaithful
  dsimp only
  generalize (if entries.isEmpty then [] else [.clearOrder]) ++ terms.map OrderTerm.operation = ops
    at hordered ⊢
  generalize { s with orders := (if entries.isEmpty then s.orders else []) ++ terms } = ordered
    at hordered ⊢
  cases fault with
  | some f => exact hordered.symm
  | none =>
    dsimp only
    rw [hordered]
    unfold breakTies
    split
    · exact hordered.symm
    · rw [applyAll_append, hordered]
      rfl

/-- A selection is made by one operation, once its identities are literals. -/
lemma select_spec {s s' : Scope} {selection : Selection} (h : s.select selection = .ok s') :
    ∃ ids, selection.toggled.mapM (literal s.primaryKey) = .ok ids ∧
      s' = s.apply (selection.operation s.primaryKey ids) := by
  obtain ⟨ids, hids, h⟩ := bind_eq_ok.mp h
  refine ⟨ids, hids, ?_⟩
  unfold Selection.operation
  cases hmode : selection.mode <;> rw [hmode] at h <;> exact (pure_eq_ok.mp h).symm

/-- A selection restricts a scope once its identities are literals. -/
lemma select_eq_ok {s : Scope} {selection : Selection} {ids : List Literal}
    (hids : selection.toggled.mapM (literal s.primaryKey) = .ok ids) :
    s.select selection = .ok (s.apply (selection.operation s.primaryKey ids)) := by
  rw [select, hids]
  unfold Selection.operation
  cases selection.mode <;> rfl

end Scope

section

variable (r : Registry) (e : Entity) (given : List (String × Json))

mutual

/-- A step of a custom filter leaves the scope that its operations make. -/
theorem HookStep.run_scope (s : Scope) : ∀ step : HookStep,
    (step.run r e given s).scope = s.applyAll (step.operations r e given s)
  | .change c => by rw [run, operations]; rfl
  | .keepGiven column key => by rw [run, operations]; rfl
  | .keepNotGiven column key => by rw [run, operations]; rfl
  | .filter column node => by
    rw [run, operations, Scope.filterBy]
    cases r.resolve e column with
    | error f => rfl
    | ok p =>
      dsimp only
      change (Progress.ofExcept s (do return s.restrict (← node.entry p s.table))).scope = _
      cases node.entry p s.table <;> rfl
  | .sort entries => by rw [run, operations, Scope.sort_scope]
  | .select selection => by
    rw [run, operations]
    cases hids : selection.toggled.mapM (literal s.primaryKey) with
    | error f =>
      rw [Scope.select, hids]
      rfl
    | ok ids =>
      rw [Scope.select_eq_ok hids]
      rfl
  | .window w => by rw [run, operations]; rfl
  | .when key value steps => by
    rw [run, operations]
    split
    · exact HookStep.runAll_scope s steps
    · rfl
  | .tolerate step => by
    rw [run, operations]
    exact HookStep.run_scope s step
  | .fail why => by rw [run, operations]; rfl

/-- Steps leave the scope that their operations make. -/
theorem HookStep.runAll_scope (s : Scope) : ∀ steps : List HookStep,
    (HookStep.runAll r e given s steps).scope =
      s.applyAll (HookStep.operationsOf r e given s steps)
  | [] => by rw [runAll, operationsOf]; rfl
  | step :: rest => by
    have hstep := HookStep.run_scope s step
    rw [runAll, operationsOf, Scope.applyAll_append, ← hstep]
    split
    · next changed hrun =>
      rw [hrun]
      exact HookStep.runAll_scope changed rest
    · next changed f hrun =>
      rw [hrun]
      rfl

end

/-- **A custom filter** leaves the scope that its operations make. -/
theorem Hook.run_scope (hook : Hook) (s : Scope) :
    (hook.run r e given s).scope = s.applyAll (hook.operations r e given s) :=
  HookStep.runAll_scope r e given s hook

end

/-! ## Compilation -/

/-- The operations of the custom filter that a request on a subject meets. -/
def Registry.operations (r : Registry) (subject : Subject) (request : Request) :
    List ScopeChange :=
  match subject.scope, r.hook? subject.entity.name with
  | .ok start, some hook => hook.operations r subject.entity request.customFilters start
  | _, _ => []

/-- Without custom filter none of its operations are performed. -/
lemma Registry.operations_of_hook?_eq_none {r : Registry} {subject : Subject}
    (hhook : r.hook? subject.entity.name = none) (request : Request) :
    r.operations subject request = [] := by
  unfold operations
  rw [hhook]
  split
  · next heq => cases heq
  · rfl

/-- What compilation does, stage by stage: from the scope `start` of the subject, through the
custom filter, the `conditions` of the filters and the operations `selected` of the selection, to
the order and the window. -/
structure Registry.Stages (r : Registry) (subject : Subject) (request : Request) (q : Query)
    (start : Scope) (conditions : List Condition) (selected : List ScopeChange) : Prop where
  request_eq : q.request = request
  subject_eq : q.subject = subject
  start_eq : subject.scope = .ok start
  /-- One condition for each filter but the one on the listed column. -/
  filters : List.Forall₂
    (fun entry c => ∃ p, r.resolve subject.entity entry.1 = .ok p ∧
      entry.2.entry p start.table = .ok c)
    (request.filters.filter fun entry => request.column ≠ some entry.1) conditions
  selection : match Selection.ofRequest? request with
    | none => selected = []
    | some selection => ∃ ids, selection.toggled.mapM (literal start.primaryKey) = .ok ids ∧
        selected = [selection.operation start.primaryKey ids]
  sorts : (sortTerms r subject.entity start.table request.sorts).2 = none
  scope_eq : q.scope =
    ((start.applyAll (r.operations subject request ++ conditions.map .restrict ++ selected)).sort
      r subject.entity request.sorts).scope.windowFrom request

/-- Filters restrict a scope by one condition each. -/
lemma Scope.filterAll_spec {r : Registry} {e : Entity} {listed : Option String}
    {entries : List (String × FilterNode)} {s s' : Scope}
    (h : s.filterAll r e listed entries = .ok s') :
    ∃ conditions : List Condition, s' = s.applyAll (conditions.map .restrict) ∧
      List.Forall₂
        (fun entry c => ∃ p, r.resolve e entry.1 = .ok p ∧ entry.2.entry p s.table = .ok c)
        (entries.filter fun entry => listed ≠ some entry.1) conditions := by
  induction entries generalizing s with
  | nil =>
    rw [filterAll, Except.ok.injEq] at h
    exact ⟨[], h.symm, List.Forall₂.nil⟩
  | cons entry rest ih =>
    obtain ⟨column, node⟩ := entry
    rw [filterAll] at h
    by_cases hlisted : listed = some column
    · rw [if_pos hlisted] at h
      obtain ⟨conditions, hs', hall⟩ := ih h
      refine ⟨conditions, hs', ?_⟩
      rwa [List.filter_cons_of_neg (by simpa using hlisted)]
    · rw [if_neg hlisted] at h
      split at h
      · cases h
      · next restricted hone =>
        obtain ⟨p, hp, hone⟩ := bind_eq_ok.mp hone
        obtain ⟨c, hc, hone⟩ := bind_eq_ok.mp hone
        rw [← pure_eq_ok.mp hone] at h
        obtain ⟨conditions, hs', hall⟩ := ih h
        refine ⟨c :: conditions, hs', ?_⟩
        rw [List.filter_cons_of_pos (by simpa using hlisted)]
        exact List.Forall₂.cons ⟨p, hp, hc⟩ hall

/-- The selection of a request restricts a scope by at most one operation. -/
lemma Scope.selectFrom_spec {s s' : Scope} {request : Request}
    (h : s.selectFrom request = .ok s') :
    ∃ selected, s' = s.applyAll selected ∧
      match Selection.ofRequest? request with
      | none => selected = []
      | some selection => ∃ ids, selection.toggled.mapM (literal s.primaryKey) = .ok ids ∧
          selected = [selection.operation s.primaryKey ids] := by
  unfold selectFrom at h
  split at h
  · next selection hsel =>
    obtain ⟨ids, hids, hs'⟩ := select_spec h
    rw [hsel]
    exact ⟨[selection.operation s.primaryKey ids], hs', ids, hids, rfl⟩
  · next hsel =>
    rw [hsel]
    exact ⟨[], (Except.ok.inj h).symm, rfl⟩

/-- The scope of a subject is one of its table, and nothing but a parent restricts it. -/
lemma Subject.scope_spec {subject : Subject} {start : Scope} (h : subject.scope = .ok start) :
    ∃ ops, start = (freshScope subject.entity).applyAll ops ∧
      match subject.parent with
      | none => ops = []
      | some p => ∃ key, literal p.column p.key = .ok key ∧
          ops = [.restrict (.ofExpr
            (.compare .eq (.column subject.entity.table p.column) (.literal key)))] := by
  unfold scope at h
  cases hparent : subject.parent with
  | none =>
    rw [hparent] at h
    exact ⟨[], (Except.ok.inj h).symm, rfl⟩
  | some p =>
    rw [hparent] at h
    obtain ⟨key, hkey, h⟩ := bind_eq_ok.mp h
    exact ⟨[.restrict (.ofExpr
      (.compare .eq (.column subject.entity.table p.column) (.literal key)))],
      (pure_eq_ok.mp h).symm, key, hkey, rfl⟩

/-- A scope is left by a custom filter only if no step of it failed. -/
lemma Registry.customize_spec {r : Registry} {subject : Subject} {request : Request}
    {start customized : Scope} (hstart : subject.scope = .ok start)
    (h : (r.customize subject.entity request.customFilters start).toExcept = .ok customized) :
    customized = start.applyAll (r.operations subject request) := by
  unfold Registry.customize at h
  unfold Registry.operations
  rw [hstart]
  cases hhook : r.hook? subject.entity.name with
  | none =>
    rw [hhook] at h
    exact (Except.ok.inj h).symm
  | some hook =>
    rw [hhook] at h
    dsimp only at h ⊢
    rw [← Hook.run_scope]
    exact (Progress.toExcept_eq_ok.mp h).2.symm

/-- What a request becomes before its sort order and its window are looked at. -/
def Registry.gather (r : Registry) (subject : Subject) (request : Request) :
    Except Fault Scope := do
  let start ← subject.scope
  let customized ← (r.customize subject.entity request.customFilters start).toExcept
  let filtered ← customized.filterAll r subject.entity request.column request.filters
  filtered.selectFrom request

/-- What a request becomes before its window is looked at. -/
def Registry.arrange (r : Registry) (subject : Subject) (request : Request) :
    Except Fault Scope := do
  let selected ← r.gather subject request
  (selected.sort r subject.entity request.sorts).toExcept

/-- The window comes last, and compilation does not fail on its behalf. -/
theorem Registry.compile_eq (r : Registry) (subject : Subject) (request : Request) :
    r.compile subject request = (r.arrange subject request).map fun s =>
      { request := request, subject := subject, scope := s.windowFrom request } := by
  unfold compile arrange gather refine
  simp only [bind, Except.bind, pure, Except.pure]
  cases subject.scope with
  | error f => rfl
  | ok start =>
    dsimp only
    cases (r.customize subject.entity request.customFilters start).toExcept with
    | error f => rfl
    | ok customized =>
      dsimp only
      cases customized.filterAll r subject.entity request.column request.filters with
      | error f => rfl
      | ok filtered =>
        dsimp only
        cases filtered.selectFrom request with
        | error f => rfl
        | ok selected =>
          dsimp only
          cases (selected.sort r subject.entity request.sorts).toExcept <;> rfl

/-- A sort order fails only where an entry addresses nothing. -/
lemma Scope.sort_fault (s : Scope) (r : Registry) (e : Entity) (entries : List SortEntry) :
    (s.sort r e entries).fault = (sortTerms r e s.table entries).2 := by
  unfold sort
  generalize sortTerms r e s.table entries = found
  obtain ⟨terms, fault⟩ := found
  cases fault <;> rfl

/-- A sort order without fault puts its terms behind the ordering that is kept, and completes it by
the primary key. -/
lemma Scope.sort_eq {s : Scope} {r : Registry} {e : Entity} {entries : List SortEntry}
    (h : (sortTerms r e s.table entries).2 = none) :
    s.sort r e entries = { scope := ({ s with
      orders := (if entries.isEmpty then s.orders else []) ++
        (sortTerms r e s.table entries).1 } : Scope).breakTies e } := by
  unfold sort
  generalize sortTerms r e s.table entries = found at h ⊢
  obtain ⟨terms, fault⟩ := found
  obtain rfl : fault = none := h
  rfl

/-- **Compilation, stage by stage.** -/
theorem Registry.compile_spec {r : Registry} {subject : Subject} {request : Request} {q : Query}
    (h : r.compile subject request = .ok q) :
    ∃ start conditions selected, r.Stages subject request q start conditions selected := by
  rw [compile_eq] at h
  obtain ⟨sorted, harrange, hq⟩ := map_eq_ok.mp h
  obtain ⟨selected, hgather, hsort⟩ := bind_eq_ok.mp harrange
  obtain ⟨start, hstart, hgather⟩ := bind_eq_ok.mp hgather
  obtain ⟨customized, hcustom, hgather⟩ := bind_eq_ok.mp hgather
  obtain ⟨filtered, hfilter, hselect⟩ := bind_eq_ok.mp hgather
  have hcustomized := customize_spec hstart hcustom
  obtain ⟨conditions, hfiltered, hall⟩ := Scope.filterAll_spec hfilter
  obtain ⟨ops, hselected, hops⟩ := Scope.selectFrom_spec hselect
  rw [hcustomized, Scope.table_applyAll] at hall
  rw [hfiltered, hcustomized] at hselected hops
  rw [Scope.primaryKey_applyAll, Scope.primaryKey_applyAll] at hops
  obtain ⟨hfault, hsorted⟩ := Progress.toExcept_eq_ok.mp hsort
  rw [Scope.sort_fault, hselected, Scope.table_applyAll, Scope.table_applyAll,
    Scope.table_applyAll] at hfault
  refine ⟨start, conditions, ops, by rw [← hq], by rw [← hq], hstart, hall, hops, hfault, ?_⟩
  rw [← hq, ← hsorted, hselected, Scope.applyAll_append, Scope.applyAll_append]

/-! ## The listed column -/

/-- The filter on the listed column is passed over. -/
lemma Scope.filterAll_filter (s : Scope) (r : Registry) (e : Entity) (listed : Option String)
    (entries : List (String × FilterNode)) :
    s.filterAll r e listed entries =
      s.filterAll r e listed (entries.filter fun entry => listed ≠ some entry.1) := by
  induction entries generalizing s with
  | nil => rfl
  | cons entry rest ih =>
    obtain ⟨column, node⟩ := entry
    by_cases hlisted : listed = some column
    · rw [filterAll, if_pos hlisted, ih, List.filter_cons_of_neg (by simpa using hlisted)]
    · rw [filterAll, if_neg hlisted, List.filter_cons_of_pos (by simpa using hlisted), filterAll,
        if_neg hlisted]
      split
      · rfl
      · next restricted _ => exact ih restricted

/-- Filters that differ only on the listed column arrange the same scope. -/
theorem Registry.arrange_eq_of_filter_eq (r : Registry) (subject : Subject) {request : Request}
    {column : String} (hcolumn : request.column = some column)
    {filters : List (String × FilterNode)}
    (hfilters : (filters.filter fun entry => entry.1 ≠ column) =
      request.filters.filter fun entry => entry.1 ≠ column) :
    r.arrange subject { request with filters := filters } = r.arrange subject request := by
  have hall : ∀ s : Scope, s.filterAll r subject.entity request.column filters =
      s.filterAll r subject.entity request.column request.filters := by
    intro s
    have hsame : ∀ entries : List (String × FilterNode),
        (entries.filter fun entry => request.column ≠ some entry.1) =
          entries.filter fun entry => entry.1 ≠ column := by
      intro entries
      refine List.filter_congr fun entry _ => ?_
      rw [hcolumn, decide_eq_decide, Ne, Ne, Option.some.injEq, eq_comm]
    rw [s.filterAll_filter, s.filterAll_filter r subject.entity request.column request.filters,
      hsame, hsame, hfilters]
  unfold Registry.arrange Registry.gather
  simp only [hall]
  rfl

end DataGrid
