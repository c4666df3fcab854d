import DataGrid.Proofs.Query.Identifiers
import DataGrid.Schema.Zoo

/-!
# The ordering of grouped pages

A custom filter may group the rows. A grouped page has one row for each group, so it can be ordered
by group columns only. The primary key is kept out of its ordering, but the sort order of the
request is not: the terms of the page are group columns exactly when the entries of the sort order
are, and an entry for any other column makes a statement that no store accepts.

## Main definitions

* `DataGrid.Scope.OrdersByGroups` — every ordering term is a group column.

## Main results

* `DataGrid.ColumnPath.sortKey_eq_column_iff` — which sort keys are columns of the subject.
* `DataGrid.Scope.ordersByGroups_sort_iff` — when a sort order keeps a grouped scope ordered by its
  groups.
* `DataGrid.Registry.orders_by_groups_iff` — the ordering of a grouped page.
-/

namespace DataGrid

open Sql

/-! ## Sort keys that are columns -/

namespace ColumnPath

/-- A value inside a document is not a column. -/
lemma memberAt_ne_column {e : Expr} {keys : List String} (h : keys ≠ []) (table name : String) :
    memberAt e keys ≠ .column table name := by
  induction keys generalizing e with
  | nil => exact absurd rfl h
  | cons key rest ih =>
    cases rest with
    | nil => exact nofun
    | cons next rest => exact ih (List.cons_ne_nil next rest)

/-- **Sort keys that are columns.** A path is ordered by a column of the subject when it neither
follows a relation nor ends inside a document; it is the column that the path ends at. -/
theorem sortKey_eq_column_iff (p : ColumnPath) (base name : String) (d : Direction) :
    p.sortKey base d = .column base name ↔ p.isDirect name = true := by
  unfold isDirect hasHops isNested
  cases hhops : p.hops with
  | cons h rest => simp [sortKey, hhops]
  | nil =>
    rw [p.sortKey_of_hops_eq_nil hhops]
    cases hkeys : p.keys with
    | nil => simp [expr, hkeys, memberAt]
    | cons key rest =>
      refine iff_of_false ?_ (by simp)
      rw [expr, hkeys]
      exact memberAt_ne_column (List.cons_ne_nil key rest) _ name

end ColumnPath

/-! ## Sort orders of grouped scopes -/

/-- The terms of a sort order without fault are those of its entries, one by one. -/
lemma forall₂_sortTerms {r : Registry} {e : Entity} {table : String} {entries : List SortEntry}
    (h : (sortTerms r e table entries).2 = none) :
    List.Forall₂
      (fun entry t => ∃ p, r.resolve e entry.column = .ok p ∧ p.orderTerm table entry.direction = t)
      entries (sortTerms r e table entries).1 := by
  induction entries with
  | nil => exact List.Forall₂.nil
  | cons entry rest ih =>
    rw [sortTerms] at h ⊢
    split at h
    · cases h
    · next p hp => exact List.Forall₂.cons ⟨p, hp, rfl⟩ (ih h)

namespace Scope

variable {s : Scope} {r : Registry} {e : Entity} {entries : List SortEntry}

/-- Every ordering term is one of the group columns. -/
def OrdersByGroups (s : Scope) : Prop := ∀ t ∈ s.orders, t.expr ∈ s.groupColumns

/-- The page of such a scope is ordered by what it is grouped by. -/
lemma OrdersByGroups.page (h : s.OrdersByGroups) :
    ∀ o ∈ s.pageStatement.orders, o.1 ∈ s.pageStatement.groups := by
  intro o ho
  obtain ⟨t, ht, rfl⟩ := List.mem_map.mp ho
  exact h t ht

/-- The primary key is kept out of the ordering of a grouped scope: a sort order that succeeds puts
its terms in place of the old ones, and leaves these when it is empty. -/
lemma sort_of_isGrouped (hgrouped : s.isGrouped = true)
    (hfault : (sortTerms r e s.table entries).2 = none) :
    (s.sort r e entries).scope = { s with
      orders := (if entries.isEmpty then s.orders else []) ++
        (sortTerms r e s.table entries).1 } := by
  rw [sort_eq hfault]
  generalize (if entries.isEmpty then s.orders else []) ++ (sortTerms r e s.table entries).1 = orders
  have hgrouped' : ({ s with orders := orders } : Scope).isGrouped = true := hgrouped
  rw [breakTies, hgrouped', Bool.or_true, if_pos rfl]

/-- The sort key of a path is a group column when the path is one. -/
lemma sortKey_mem_groupColumns (p : ColumnPath) (d : Direction) :
    p.sortKey s.table d ∈ s.groupColumns ↔ ∃ name ∈ s.groups, p.isDirect name = true := by
  rw [groupColumns, List.mem_map]
  refine exists_congr fun name => and_congr_right fun _ => ?_
  rw [column, eq_comm, p.sortKey_eq_column_iff]

/-- A grouped scope orders by group columns behind a sort order, if it did before, exactly when the
entries are group columns. -/
lemma ordersByGroups_sort_iff (hgrouped : s.isGrouped = true)
    (hfault : (sortTerms r e s.table entries).2 = none) (horders : s.OrdersByGroups) :
    (s.sort r e entries).scope.OrdersByGroups ↔
      ∀ entry ∈ entries, ∃ p, r.resolve e entry.column = .ok p ∧
        ∃ name ∈ s.groups, p.isDirect name = true := by
  have hterms : (∀ t ∈ (sortTerms r e s.table entries).1, t.expr ∈ s.groupColumns) ↔
      ∀ entry ∈ entries, ∃ p, r.resolve e entry.column = .ok p ∧
        ∃ name ∈ s.groups, p.isDirect name = true := by
    rw [forall_mem_iff_of_forall₂ (fun entry t t' ht ht' => ?_) (forall₂_sortTerms hfault)]
    · refine forall₂_congr fun entry _ => ⟨?_, ?_⟩
      · rintro ⟨_, ⟨p, hp, rfl⟩, hgroup⟩
        exact ⟨p, hp, (sortKey_mem_groupColumns p entry.direction).mp hgroup⟩
      · rintro ⟨p, hp, hgroup⟩
        exact ⟨_, ⟨p, hp, rfl⟩, (sortKey_mem_groupColumns p entry.direction).mpr hgroup⟩
    · obtain ⟨p, hp, rfl⟩ := ht
      obtain ⟨p', hp', rfl⟩ := ht'
      rw [Except.ok.inj (hp.symm.trans hp')]
  have hkept : ∀ t ∈ (if entries.isEmpty then s.orders else []), t.expr ∈ s.groupColumns := by
    intro t ht
    split at ht
    · exact horders t ht
    · cases ht
  rw [← hterms, sort_of_isGrouped hgrouped hfault]
  constructor
  · exact fun h t ht => h t (List.mem_append_right _ ht)
  · intro h t ht
    rcases List.mem_append.mp ht with ht | ht
    · exact hkept t ht
    · exact h t ht

end Scope

/-! ## Compiled requests -/

section

variable {r : Registry} {subject : Subject} {request : Request} {q : Query}
  {start customized : Scope}

/-- **The ordering of a grouped page.** When a custom filter groups the rows and orders them by
group columns only, then so does the compiled request exactly when every entry of its sort order is
one of the group columns, in particular when there are no entries. A statement for the page is then
ordered by what it is grouped by.

**Proof sketch.** The sort order is the only stage behind the custom filter that touches the
ordering (`Stages.exists_customized_eq`). It leaves out the primary key, and its terms are columns
of the subject only where its entries are (`Scope.ordersByGroups_sort_iff`). -/
theorem Registry.orders_by_groups_iff (hcompile : r.compile subject request = .ok q)
    (hstart : subject.scope = .ok start)
    (hcustom : (r.customize subject.entity request.customFilters start).toExcept = .ok customized)
    (hgrouped : customized.isGrouped = true) (horders : customized.OrdersByGroups) :
    q.scope.groups = customized.groups ∧
    (q.scope.OrdersByGroups ↔
      ∀ entry ∈ request.sorts, ∃ p, r.resolve subject.entity entry.column = .ok p ∧
        ∃ name ∈ customized.groups, p.isDirect name = true) ∧
    (q.scope.OrdersByGroups →
      ∀ o ∈ q.scope.pageStatement.orders, o.1 ∈ q.scope.pageStatement.groups) := by
  obtain ⟨start', conditions, selected, hstages⟩ := Registry.compile_spec hcompile
  obtain rfl : start' = start := Except.ok.inj (hstages.start_eq.symm.trans hstart)
  obtain ⟨added, hscope⟩ := hstages.exists_customized_eq hcustom
  have hsorts : (sortTerms r subject.entity customized.table request.sorts).2 = none := by
    rw [Registry.customize_spec hstart hcustom, Scope.table_applyAll]
    exact hstages.sorts
  obtain ⟨orders, hsorted⟩ := customized.exists_sort_eq r subject.entity request.sorts
  obtain ⟨offset, limit, hwindow⟩ :=
    (customized.sort r subject.entity request.sorts).scope.exists_windowFrom_eq request
  rw [hwindow] at hscope
  have hgroups : q.scope.groups = customized.groups := by
    rw [hscope, hsorted]
    rfl
  have hsame : q.scope.OrdersByGroups ↔
      (customized.sort r subject.entity request.sorts).scope.OrdersByGroups := by
    rw [hscope]
    exact Iff.rfl
  exact ⟨hgroups, hsame.trans (Scope.ordersByGroups_sort_iff hgrouped hsorts horders),
    Scope.OrdersByGroups.page⟩

end

/-- The flamingos as the tally leaves them. -/
def Zoo.tallied : Scope :=
  (Subject.freshScope Zoo.flamingos).applyAll
    [.groupBy "species", .addOutput .countRows "flamingo_count", .orderBy "species" .asc]

/-- The tally orders by what it groups by. -/
lemma Zoo.ordersByGroups_tallied : Zoo.tallied.OrdersByGroups := by
  intro t ht
  rw [List.mem_singleton.mp ht]
  exact List.mem_singleton_self _

/-- The page of the tally, put in descending order by a request. -/
theorem Registry.orders_by_groups_iff_species :
    ∃ r q, Zoo.registry = .ok r ∧
      (r.registerHook "flamingos" Hook.tally).compile { entity := Zoo.flamingos }
        { customFilters := [("tally", .bool true)], sorts := [⟨"species", .desc⟩] } = .ok q ∧
      ((r.registerHook "flamingos" Hook.tally).customize Zoo.flamingos
        [("tally", .bool true)] (Subject.freshScope Zoo.flamingos)).toExcept = .ok Zoo.tallied ∧
      Zoo.tallied.isGrouped = true ∧ Zoo.tallied.OrdersByGroups ∧ q.scope.OrdersByGroups := by
  have hpage : ∀ (r : Registry) (q : Query), Zoo.registry = .ok r →
      (r.registerHook "flamingos" Hook.tally).compile { entity := Zoo.flamingos }
        { customFilters := [("tally", .bool true)], sorts := [⟨"species", .desc⟩] } = .ok q →
      ((r.registerHook "flamingos" Hook.tally).customize Zoo.flamingos
        [("tally", .bool true)] (Subject.freshScope Zoo.flamingos)).toExcept = .ok Zoo.tallied →
      (∃ p, (r.registerHook "flamingos" Hook.tally).resolve Zoo.flamingos "species" = .ok p ∧
        p.isDirect "species" = true) → q.scope.OrdersByGroups := by
    intro r q _ hcompile hcustom hspecies
    obtain ⟨p, hp, hdirect⟩ := hspecies
    refine (Registry.orders_by_groups_iff hcompile rfl hcustom rfl
      Zoo.ordersByGroups_tallied).2.1.mpr ?_
    exact List.forall_mem_singleton.mpr ⟨p, hp, "species", List.mem_singleton_self _, hdirect⟩
  exact ⟨_, _, rfl, rfl, rfl, rfl, Zoo.ordersByGroups_tallied,
    hpage _ _ rfl rfl rfl ⟨_, rfl, rfl⟩⟩

/-- **A tally ordered by weight.** The custom filter groups by species and orders by species, but
the sort order of the request puts the weight of single rows in its place. -/
theorem Registry.tally_ordered_by_weight :
    ∃ r q, Zoo.registry = .ok r ∧
      (r.registerHook "flamingos" Hook.tally).compile { entity := Zoo.flamingos }
        { customFilters := [("tally", .bool true)], sorts := [⟨"weight", .desc⟩] } = .ok q ∧
      ((r.registerHook "flamingos" Hook.tally).customize Zoo.flamingos
        [("tally", .bool true)] (Subject.freshScope Zoo.flamingos)).toExcept = .ok Zoo.tallied ∧
      Zoo.tallied.isGrouped = true ∧ Zoo.tallied.OrdersByGroups ∧
      ∃ o ∈ q.scope.pageStatement.orders, o.1 ∉ q.scope.pageStatement.groups := by
  refine ⟨_, _, rfl, rfl, rfl, rfl, Zoo.ordersByGroups_tallied,
    (.column "flamingos" "weight", .desc), List.mem_singleton_self _, ?_⟩
  intro hmem
  have hsame : Expr.column "flamingos" "weight" = .column "flamingos" "species" :=
    List.mem_singleton.mp hmem
  injection hsame with _ hname
  exact absurd hname (by decide)

end DataGrid
