import DataGrid.Proofs.Query.Restriction
import DataGrid.Schema.Zoo

/-!
# Totals

The total of a request is the number of rows that its page has without ordering and window. It is
the number of filtered rows, or that of the tuples that the group columns of these rows fall into.

## Main definitions

* `DataGrid.Sql.Select.unordered` — a statement without ordering and window.
* `DataGrid.Sql.Represents` — one tuple for all that fall together.

## Main results

* `DataGrid.Scope.returns_countStatement_iff` — the only result of the count.
* `DataGrid.Scope.length_of_returns_unordered` — the number of rows of the page.
* `DataGrid.Registry.total_counts_page` — both for compiled requests, whose total depends neither on
  the sort order nor on the window.
-/

namespace DataGrid

open Sql

/-- A statement without its ordering and its window. -/
def Sql.Select.unordered (s : Select) : Select :=
  { s with orders := [], limit := none, offset := none }

section

variable {V : Type} (S : Scalars V) (db : Database V)

/-- Of several tuples that fall together exactly one stands for them. -/
structure Sql.Represents (representatives tuples : List (List (Option V))) : Prop where
  mem : ∀ t ∈ representatives, t ∈ tuples
  apart : representatives.Pairwise fun t t' => sameTuple S t t' = false
  covers : ∀ t ∈ tuples, ∃ t' ∈ representatives, sameTuple S t' t = true

/-- The distinct ones among tuples represent them. -/
lemma Sql.represents_distinctBy (tuples : List (List (Option V))) :
    Represents S (distinctBy (sameTuple S) tuples) tuples where
  mem _ ht := mem_of_mem_distinctBy ht
  apart := pairwise_distinctBy _ tuples
  covers _ ht := exists_mem_distinctBy (sameTuple_refl S) (fun _ _ _ => sameTuple_trans S) ht

namespace Scope

variable (s : Scope)

/-- The number of rows of a page without ordering and window: the filtered rows, or the tuples of
their group columns. -/
def rowCount : Nat :=
  if s.isGrouped then
    (distinctBy (sameTuple S)
      ((s.rows.found S db).map (s.rows.tuple S db))).length
  else (s.rows.found S db).length

/-- The page and the count make groups of the same columns. -/
lemma groups_isEmpty : s.groupColumns.isEmpty = !s.isGrouped := by
  rw [groupColumns, isGrouped, Bool.not_not]
  cases s.groups <;> rfl

/-- A page without ordering and window has as many rows as there are filtered rows, or tuples of
their group columns. -/
theorem length_of_returns_unordered {result : List (List (Cell V))}
    (h : s.pageStatement.unordered.Returns S db result) :
    result.length = s.rowCount S db := by
  obtain ⟨scan, hscan, hlength⟩ := Select.length_of_returns S db rfl rfl rfl h
  rw [hlength, rowCount]
  have hempty : s.pageStatement.unordered.groups.isEmpty = !s.isGrouped := s.groups_isEmpty
  cases hgroup : s.isGrouped with
  | true =>
    rw [hgroup] at hempty
    rw [if_pos rfl, Select.length_groupsOf S db _ hscan hempty]
    rfl
  | false =>
    rw [hgroup] at hempty
    have hrow : s.pageStatement.unordered.isTotal = false := by
      simp [Select.isTotal, Select.unordered, pageStatement, hgroup, Output.isRow]
    rw [Select.groupsOf, hempty, hrow]
    simp only [Bool.not_false, if_true, Bool.false_eq_true, if_false, List.length_map]
    exact hscan.length_eq

/-- Groups are counted by a statement that lists them. -/
lemma returns_countOf_iff (hgroup : s.isGrouped = true) {result : List (List (Cell V))} :
    s.countStatement.Returns S db result ↔
      result = [[.value (some (S.ofInt (s.rowCount S db)))]] := by
  have hempty : s.groupColumns.isEmpty = false := by rw [s.groups_isEmpty, hgroup]; rfl
  have hlength : ∀ rows, Select.Returns S db
      { s.rows with outputs := s.groupColumns.map .expr } rows →
        rows.length = s.rowCount S db := by
    intro rows hrows
    obtain ⟨scan, hscan, hlength⟩ := Select.length_of_returns S db rfl rfl rfl hrows
    rw [hlength, Select.length_groupsOf S db _ hscan hempty, rowCount, if_pos hgroup]
    rfl
  rw [countStatement, if_pos hgroup]
  constructor
  · rintro ⟨rows, hrows, hresult⟩
    rw [hresult, hlength rows hrows]
  · intro hresult
    obtain ⟨rows, hrows⟩ := Select.exists_returns S db
      { s.rows with outputs := s.groupColumns.map .expr }
    refine ⟨rows, hrows, ?_⟩
    rw [hresult, hlength rows hrows]

/-- Without groups, the rows are counted by an aggregate over all of them. -/
lemma returns_countRows_iff (hgroup : s.isGrouped = false) {result : List (List (Cell V))} :
    s.countStatement.Returns S db result ↔
      result = [[.value (some (S.ofInt (s.rowCount S db)))]] := by
  have hempty : s.groupColumns.isEmpty = true := by rw [s.groups_isEmpty, hgroup]; rfl
  have hunits : ∀ scan, Select.units S db { s.rows with outputs := [.expr .countRows] } scan =
      [scan] := by
    intro scan
    have hgroups : Select.groupsOf S db { s.rows with outputs := [.expr .countRows] } scan =
        [scan] := if_pos hempty
    exact hgroups
  have hcells : ∀ scan : List (Frames V), scan.Perm (s.rows.found S db) →
      Select.cells S db { s.rows with outputs := [.expr .countRows] } scan =
        [.value (some (S.ofInt (s.rowCount S db)))] := by
    intro scan hscan
    rw [rowCount, hgroup, if_neg Bool.false_ne_true, ← hscan.length_eq]
    show [Cell.value (Expr.eval S db (Select.env scan) .countRows)] = _
    rw [Expr.eval]
    rfl
  rw [countStatement, hgroup, if_neg Bool.false_ne_true]
  constructor
  · rintro ⟨scan, hscan, arranged, hperm, -, hresult⟩
    rw [hunits, List.perm_singleton] at hperm
    rw [hresult, hperm, ← hcells scan hscan]
    rfl
  · intro hresult
    refine ⟨s.rows.found S db, List.Perm.refl _, [s.rows.found S db], ?_,
      List.pairwise_singleton _ _, ?_⟩
    · exact List.Perm.of_eq (hunits _).symm
    · rw [hresult, ← hcells _ (List.Perm.refl _)]
      rfl

/-- **The count has one result**, the number of filtered rows, or of the tuples of their group
columns. -/
theorem returns_countStatement_iff {result : List (List (Cell V))} :
    s.countStatement.Returns S db result ↔
      result = [[.value (some (S.ofInt (s.rowCount S db)))]] := by
  cases hgroup : s.isGrouped with
  | true => exact s.returns_countOf_iff S db hgroup
  | false => exact s.returns_countRows_iff S db hgroup

end Scope

end

/-! ## Compiled requests -/

/-- Ordering and window are added to the same scope, whatever they are. -/
lemma Registry.exists_gather_eq {r : Registry} {subject : Subject} {request : Request} {q : Query}
    (h : r.compile subject request = .ok q) :
    ∃ s orders offset limit, r.gather subject request = .ok s ∧
      q.scope = { s with orders := orders, offset := offset, limit := limit } := by
  rw [Registry.compile_eq] at h
  obtain ⟨sorted, harrange, hq⟩ := map_eq_ok.mp h
  obtain ⟨s, hgather, hsort⟩ := bind_eq_ok.mp harrange
  obtain ⟨-, hsorted⟩ := Progress.toExcept_eq_ok.mp hsort
  obtain ⟨orders, offset, limit, hrefined⟩ := s.exists_refined_eq r subject.entity request
  refine ⟨s, orders, offset, limit, hgather, ?_⟩
  rw [← hq, ← hsorted, hrefined]

section

variable {V : Type} (S : Scalars V) (db : Database V)
variable {r : Registry} {subject : Subject} {request : Request} {q : Query}

/-- **The total counts the page.** The total of a compiled request has one result, the number of
rows that the page has without ordering and window. Without groups these are the filtered rows, and
with groups as many as it takes to represent the tuples of their group columns, nulls falling
together. Requests that differ in sort order and window only have the same total.

**Proof sketch.** Page and count read the same rows and make the same groups of them
(`Scope.length_of_returns_unordered`, `Scope.returns_countStatement_iff`), and the count of a scope
looks at nothing that a sort order or a window changes (`exists_gather_eq`). -/
theorem Registry.total_counts_page (h : r.compile subject request = .ok q) :
    (∃ n : Nat,
      (∀ result, q.total.Returns S db result ↔ result = [[.value (some (S.ofInt n))]]) ∧
      (∃ rows, q.scope.pageStatement.unordered.Returns S db rows) ∧
      (∀ rows, q.scope.pageStatement.unordered.Returns S db rows → rows.length = n) ∧
      (q.scope.isGrouped = false → n = (q.scope.pageStatement.found S db).length) ∧
      (q.scope.isGrouped = true → ∃ representatives, n = representatives.length ∧
        Represents S representatives ((q.scope.pageStatement.found S db).map
          (q.scope.pageStatement.tuple S db)))) ∧
    ∀ sorts start stop q',
      r.compile subject { request with sorts := sorts, startRow := start, endRow := stop } =
        .ok q' → q'.total = q.total := by
  refine ⟨⟨q.scope.rowCount S db, fun result => q.scope.returns_countStatement_iff S db,
    q.scope.pageStatement.unordered.exists_returns S db,
    fun rows => q.scope.length_of_returns_unordered S db, fun hgroup => ?_, fun hgroup => ?_⟩,
    fun sorts start stop q' h' => ?_⟩
  · rw [Scope.rowCount, hgroup, if_neg Bool.false_ne_true]
    rfl
  · refine ⟨_, ?_, represents_distinctBy S _⟩
    rw [Scope.rowCount, if_pos hgroup]
    rfl
  · obtain ⟨s, orders, offset, limit, hgather, hscope⟩ := Registry.exists_gather_eq h
    obtain ⟨s', orders', offset', limit', hgather', hscope'⟩ := Registry.exists_gather_eq h'
    have hsame : s' = s := by
      have hboth : Except.ok s' = Except.ok s := hgather'.symm.trans hgather
      exact Except.ok.inj hboth
    rw [Query.total, Query.total, hscope, hscope', hsame]
    rfl

end

/-- The total of the flamingos by species, read from two rows without species. -/
theorem Registry.total_counts_page_flamingos :
    ∃ r q, Zoo.registry = .ok r ∧
      (r.registerHook "flamingos" Hook.tally).compile { entity := Zoo.flamingos }
        { customFilters := [("tally", .bool true)], startRow := some 0, endRow := some 1 } =
          .ok q ∧
      q.scope.isGrouped = true ∧
      ∃ n : Nat, ∀ result, q.total.Returns Scalars.ofLiterals
        (fun _ => [fun _ => none, fun _ => none]) result ↔
          result = [[.value (some (Literal.int n))]] := by
  have hcount : ∀ r q, Zoo.registry = .ok r →
      (r.registerHook "flamingos" Hook.tally).compile { entity := Zoo.flamingos }
        { customFilters := [("tally", .bool true)], startRow := some 0, endRow := some 1 } =
          .ok q →
      ∃ n : Nat, ∀ result, q.total.Returns Scalars.ofLiterals
        (fun _ => [fun _ => none, fun _ => none]) result ↔
          result = [[.value (some (Literal.int n))]] := by
    intro r q _ h
    obtain ⟨n, hn, -⟩ := (Registry.total_counts_page Scalars.ofLiterals
      (fun _ => [fun _ => none, fun _ => none]) h).1
    exact ⟨n, hn⟩
  exact ⟨_, _, rfl, rfl, rfl, hcount _ _ rfl rfl⟩

end DataGrid
