import DataGrid.Proofs.Filter.Meaning
import DataGrid.Proofs.Keyed

/-!
# From listed values back to rows

A value listing offers values, and a set filter of one of them should lead back to the rows that the
value comes from. The listing joins the tables of the path to the rows of the subject, while the
filter asks for a live chain. For a value, and for null behind at most one row at a time, both see
the same rows. But null is listed for every chain that breaks off, and the filter asks that none of
them goes through.

## Main definitions

* `DataGrid.Request.filterBack` — the request for the rows of a listed value.
* `DataGrid.ColumnPath.Contributes` — a row brings a value into a listing.
* `DataGrid.ColumnPath.LeadsTo` — a row is met by the set filter of a value.

## Main results

* `DataGrid.ColumnPath.contributes_iff_leadsTo` — where listing and filter agree.
* `DataGrid.Registry.exists_compile_eq` — a request compiles when each part of it does.
* `DataGrid.Registry.listed_filters_back` — listings and the requests for their values.
* `DataGrid.Registry.listed_null_is_lost` — a listed null whose filter selects nothing.
-/

namespace DataGrid

open Sql

variable {V : Type} (S : Scalars V) (db : Database V)

/-! ## Set filters of one value -/

/-- The set filter of a single value. -/
def FilterNode.ofValue (value : Json) : FilterNode :=
  .leaf { filterType := "set", values := [value] }

/-- The request for the rows behind a listed value: nothing is listed, and the filter on the column
is replaced by the set filter of the value. -/
def Request.filterBack (request : Request) (column : String) (value : Json) : Request :=
  { request with
    column := none
    filters := Keyed.insert column (.ofValue value)
      (request.filters.filter fun entry => entry.1 ≠ column) }

/-- Cells fall together with null when they are null. -/
lemma Sql.Scalars.same_none {c : Option V} : S.same c none = true ↔ c = none := by
  cases c <;> simp [Scalars.same, Scalars.cellOrder]

/-- Cells fall together with a value when they are equal to it. -/
lemma Sql.Scalars.compared_eq_true_iff_same {a b : Option V} (hb : b ≠ none) :
    S.compared .eq a b = some true ↔ S.same a b = true := by
  obtain ⟨w, rfl⟩ := Option.ne_none_iff_exists'.mp hb
  cases a <;> simp [Scalars.compared, Scalars.same, Scalars.cellOrder, Comparison.holds]

/-- The literal of a scalar does not depend on the column it is for. -/
lemma literal_column {column column' : String} {value : Json} {lit : Literal}
    (h : literal column value = .ok lit) : literal column' value = .ok lit := by
  cases value with
  | array items | object fields => cases h
  | _ => exact h

/-- Only null has the cell of null. -/
lemma cell_eq_none_iff {column : String} {value : Json} {lit : Literal}
    (h : literal column value = .ok lit) : S.literal lit = none ↔ value.isNull = true := by
  cases value with
  | array items | object fields => cases h
  | number n =>
    obtain rfl := Except.ok.inj h
    cases n <;> simp [Json.Number.literal, Scalars.literal, Json.isNull]
  | _ =>
    obtain rfl := Except.ok.inj h
    simp [Scalars.literal, Json.isNull]

namespace FilterNode

variable {p : ColumnPath} {value : Json} {lit : Literal}

/-- The set filter of a single value compiles to a test for the value, or for null. -/
lemma compile_ofValue (hjson : p.isJson = false) (hvalue : literal p.id value = .ok lit)
    (label : String) :
    (ofValue value).compile p label =
      .ok (.ofExpr (if value.isNull then .isNull false (p.expr label)
        else .isIn false (p.expr label) [lit])) := by
  have hset : (ofValue value).compile p label =
      LeafFilter.compileSet { filterType := "set", values := [value] } p label := by
    rw [ofValue, compile]
    rfl
  rw [hset]
  unfold LeafFilter.compileSet LeafFilter.literals LeafFilter.selectsNull
  cases hnull : value.isNull <;> simp [hjson, hnull, hvalue, bind, Except.bind, pure, Except.pure]

/-- The set filter of a single value is true of the rows that have it. -/
lemma truth_ofValue (hjson : p.isJson = false) (hvalue : literal p.id value = .ok lit)
    {label : String} {env : Env V} {row : Row V} (hrow : Keyed.find? label env.frames = some row) :
    (ofValue value).truth S db p label env = some true ↔
      S.same (p.value S row) (S.literal lit) = true := by
  have hcell := p.eval_expr S db hrow
  have hnone := cell_eq_none_iff S hvalue
  rw [← truth_of_compile S db env _ (compile_ofValue hjson hvalue label), Condition.truth_ofExpr]
  cases hnull : value.isNull with
  | true =>
    rw [hnone.mpr hnull, S.same_none, if_pos rfl, Expr.truth_isNull, hcell]
    simp
  | false =>
    have hsome : S.literal lit ≠ none := by simp [hnone, hnull]
    rw [← S.compared_eq_true_iff_same hsome, if_neg Bool.false_ne_true, Expr.truth_isIn, hcell]
    simp [Truth.negatedIf, Scalars.isMember, Junction.op_unit]

end FilterNode

/-! ## Rows with a value -/

namespace ColumnPath

/-- A row brings a value into the listing of a path: the value is found in one of the rows that the
tables of the path, joined to it, make of it. -/
def Contributes (p : ColumnPath) (table : String) (v : Option V) (row : Row V) : Prop :=
  ∃ frames ∈ leftJoined S db [[(table, row)]] (p.joins table),
    S.same ((p.expr (p.leafLabel table)).eval S db { frames := frames }) v = true

/-- Whether a row contributes a value can be decided. -/
instance (p : ColumnPath) (table : String) (v : Option V) (row : Row V) :
    Decidable (p.Contributes S db table v row) := inferInstanceAs (Decidable (∃ _ ∈ _, _))

/-- A row is met by the set filter of a value: some live chain behind it ends in the value, or there
is none and the value is null. -/
def LeadsTo (p : ColumnPath) (v : Option V) (row : Row V) : Prop :=
  (∃ rows, LiveChain S db row p.hops rows ∧ S.same (p.value S (rows.getLastD row)) v = true) ∨
    (v = none ∧ ¬ ∃ rows, LiveChain S db row p.hops rows)

variable {p : ColumnPath} {v : Option V} {row : Row V}

/-- A row contributes the values at the ends of what left joins put together behind it. -/
lemma contributes_iff (table : String) :
    p.Contributes S db table v row ↔ ∃ rows ∈ paddedChains S db p.hops row,
      S.same (p.value S (rows.getLastD row)) v = true := by
  have hsource : Keyed.find? table [(table, row)] = some row := Keyed.find?_cons_self table row []
  have hjoined : leftJoined S db [[(table, row)]] (p.joins table) = _ :=
    leftJoined_joinsAlong S db hsource
  simp only [Contributes, hjoined, List.mem_map, exists_exists_and_eq_and]
  refine exists_congr fun rows => and_congr_right fun hrows => ?_
  rw [p.eval_expr_chainFrames S db hsource (length_of_mem_rowsAlong hrows)]

/-- A row that the set filter of a value meets contributes the value. -/
theorem LeadsTo.contributes (h : p.LeadsTo S db v row) (table : String) :
    p.Contributes S db table v row := by
  rw [contributes_iff]
  rcases h with ⟨rows, hchain, hsame⟩ | ⟨rfl, hnone⟩
  · have hlive := (mem_liveChains S db).mpr hchain
    rw [← paddedChains_filter] at hlive
    exact ⟨rows, (List.mem_filter.mp hlive).1, hsame⟩
  · obtain ⟨rows, hrows⟩ := List.exists_mem_of_ne_nil _ (paddedChains_ne_nil S db p.hops row)
    have hnull : nullRow ∈ rows := by
      by_contra hnull
      exact hnone ⟨rows, (mem_paddedChains_of_notMem S db hnull).mp hrows⟩
    refine ⟨rows, hrows, ?_⟩
    rw [getLastD_eq_nullRow S db hrows hnull, p.value_nullRow, S.same_none]

/-- **Listing and filter agree** on a value, and on null where no hop but the last reaches more than
one live row.

**Proof sketch.** What left joins put together is a live chain, or it breaks off and ends in null.
In the second case the value is null, and by `not_liveChain_of_nullRow_mem` there is no live chain
beside it. -/
theorem contributes_iff_leadsTo
    (hv : v ≠ none ∨ ∀ h ∈ p.hops.dropLast, h.AtMostOne S db) (table : String) :
    p.Contributes S db table v row ↔ p.LeadsTo S db v row := by
  refine ⟨fun h => ?_, fun h => h.contributes S db table⟩
  rw [contributes_iff] at h
  obtain ⟨rows, hrows, hsame⟩ := h
  by_cases hnull : nullRow ∈ rows
  · rw [getLastD_eq_nullRow S db hrows hnull, p.value_nullRow] at hsame
    have hvnull : v = none := S.same_none.mp (S.same_symm hsame)
    exact .inr ⟨hvnull, not_liveChain_of_nullRow_mem S db (hv.resolve_left (· hvnull)) hrows hnull⟩
  · exact .inl ⟨rows, (mem_paddedChains_of_notMem S db hnull).mp hrows, hsame⟩

end ColumnPath

/-- **The set filter of a single value** is met by the rows that lead to the value. -/
theorem FilterNode.exists_entry_ofValue {p : ColumnPath} {value : Json} {lit : Literal}
    (hjson : p.isJson = false) (hvalue : literal p.id value = .ok lit) (table : String) :
    ∃ d, (ofValue value).entry p table = .ok d ∧ ∀ row : Row V,
      d.Holds S db (.ofRow table row) ↔ p.LeadsTo S db (S.literal lit) row := by
  obtain ⟨d, hd, htruth⟩ :=
    truth_of_entry S db (compile_ofValue hjson hvalue (p.leafLabel table))
  refine ⟨d, hd, fun row => ?_⟩
  have hrow : ∀ label (row : Row V), Keyed.find? label (Env.ofRow label row).frames = some row :=
    fun label row => Keyed.find?_cons_self label row []
  have hend : ∀ rows : List (Row V), (ofValue value).truth S db p (p.leafLabel table)
      (.ofRow (p.leafLabel table) (rows.getLastD row)) = some true ↔
        S.same (p.value S (rows.getLastD row)) (S.literal lit) = true :=
    fun rows => truth_ofValue S db hjson hvalue (hrow _ _)
  have hnull : (ofValue value).selectsNull = true ↔ S.literal lit = none := by
    rw [cell_eq_none_iff S hvalue]
    have hkind : FilterKind.ofTag? "set" = some .set := rfl
    simp [ofValue, selectsNull, hkind, LeafFilter.selectsNull]
  rw [Condition.Holds, htruth _ row (hrow table row), entryTruth_eq_true_iff]
  simp only [hend, hnull]
  rfl

/-! ## Values in a listing -/

/-- A value that some element has is one of the distinct ones. -/
lemma Sql.exists_mem_distinctBy_iff {α : Type} (value : α → Option V) (v : Option V) (l : List α) :
    (∃ a ∈ distinctBy (fun a b => S.same (value a) (value b)) l, S.same (value a) v = true) ↔
      ∃ a ∈ l, S.same (value a) v = true := by
  constructor
  · rintro ⟨a, ha, hav⟩
    exact ⟨a, mem_of_mem_distinctBy ha, hav⟩
  · rintro ⟨a, ha, hav⟩
    have htrans : ∀ a b c : α, S.same (value a) (value b) = true →
        S.same (value b) (value c) = true → S.same (value a) (value c) = true :=
      fun _ _ _ => S.same_trans
    obtain ⟨b, hb, hba⟩ := exists_mem_distinctBy (fun a => S.same_refl (value a)) htrans ha
    exact ⟨b, hb, S.same_trans hba hav⟩

/-- A value stands in a result, in a row of its own. -/
def Sql.Offers (result : List (List (Cell V))) (v : Option V) : Prop :=
  ∃ cells ∈ result, sameCells S cells [.value v] = true

/-- No aggregate stands in the value of a path. -/
lemma ColumnPath.aggregates_memberAt {e : Expr} (h : e.aggregates = false) (keys : List String) :
    (memberAt e keys).aggregates = false := by
  induction keys generalizing e with
  | nil => exact h
  | cons key rest ih =>
    cases rest with
    | nil => exact h
    | cons next rest => exact ih (e := .member e key false) h

namespace Listing

variable {l : Listing}

/-- The value that a listing takes from a row that it finds. -/
def cell (l : Listing) (frames : Frames V) : Option V :=
  (l.path.expr (l.path.leafLabel l.scope.table)).eval S db { frames := frames }

/-- A group of rows has one cell in a listing, the value of its first row. -/
lemma cells_statement (l : Listing) (unit : List (Frames V)) :
    l.statement.body.cells S db unit = [.value (l.cell S db (unit.headD []))] := by
  have hcells : l.statement.body.cells S db unit =
      [.value ((l.path.expr (l.path.leafLabel l.scope.table)).eval S db (Select.env unit))] := rfl
  rw [hcells, cell, ColumnPath.expr, ColumnPath.eval_memberAt, ColumnPath.eval_memberAt]
  rfl

/-- The listing of a column that is no document makes a group of each row and leaves out groups
whose value is there already. -/
lemma units_statement (hjson : l.path.isJson = false) (rows : List (Frames V)) :
    l.statement.body.units S db rows =
      distinctBy (fun u u' => S.same (l.cell S db (u.headD [])) (l.cell S db (u'.headD [])))
        (rows.map fun frames => [frames]) := by
  have hdistinct : l.statement.body.distinct = true := by
    simp [statement, Statement.body, ColumnPath.isDocument, hjson]
  have hplain : (l.path.expr (l.path.leafLabel l.scope.table)).aggregates = false :=
    ColumnPath.aggregates_memberAt rfl l.path.keys
  have htotal : l.statement.body.isTotal = false := by
    simp [statement, Statement.body, Select.isTotal, Output.aggregates, hplain]
  have hgroups : l.statement.body.groups.isEmpty = true := rfl
  rw [Select.units, hdistinct, if_pos rfl, Select.groupsOf, hgroups, if_pos rfl, htotal,
    if_neg Bool.false_ne_true]
  simp only [cells_statement, sameCells, Cell.same, Bool.and_true]

/-- **The values of a listing** are those of the rows that it finds.

**Proof sketch.** A listing has no window and arranges groups without losing any. Groups that are
left out have the same value as one that stays. -/
theorem lists_iff (hjson : l.path.isJson = false) {result : List (List (Cell V))}
    (h : l.statement.Returns S db result) (v : Option V) :
    Offers S result v ↔ ∃ frames ∈ l.statement.body.found S db,
      S.same (l.cell S db frames) v = true := by
  obtain ⟨scan, hscan, arranged, hunits, -, hresult⟩ : l.statement.body.Returns S db result := h
  have hwindow : l.statement.body.window arranged = arranged := rfl
  rw [hresult, hwindow]
  simp only [Offers, List.mem_map, exists_exists_and_eq_and, cells_statement, sameCells, Cell.same,
    Bool.and_true, hunits.mem_iff, units_statement S db hjson]
  rw [exists_mem_distinctBy_iff S fun unit : List (Frames V) => l.cell S db (unit.headD [])]
  simp only [List.mem_map, exists_exists_and_eq_and, List.headD_cons, hscan.mem_iff]

end Listing

/-! ## Compilation that succeeds -/

/-- Filters that compile restrict a scope. -/
lemma Scope.exists_filterAll_eq {r : Registry} {e : Entity} {listed : Option String}
    {entries : List (String × FilterNode)} {s : Scope}
    (h : ∀ entry ∈ entries, listed ≠ some entry.1 → ∃ p c, r.resolve e entry.1 = .ok p ∧
      entry.2.entry p s.table = .ok c) :
    ∃ s', s.filterAll r e listed entries = .ok s' := by
  induction entries generalizing s with
  | nil => exact ⟨s, rfl⟩
  | cons entry rest ih =>
    obtain ⟨column, node⟩ := entry
    rw [List.forall_mem_cons] at h
    by_cases hlisted : listed = some column
    · rw [filterAll, if_pos hlisted]
      exact ih h.2
    · obtain ⟨p, c, hp, hc⟩ := h.1 hlisted
      have hone : s.filterBy r e column node = .ok (s.restrict c) :=
        bind_eq_ok.mpr ⟨p, hp, bind_eq_ok.mpr ⟨c, hc, rfl⟩⟩
      rw [filterAll, if_neg hlisted, hone]
      exact ih h.2

/-- A selection of identities that are scalars restricts a scope. -/
lemma Scope.exists_selectFrom_eq {s : Scope} {request : Request}
    (h : ∀ selection, Selection.ofRequest? request = some selection →
      ∃ ids, selection.toggled.mapM (literal s.primaryKey) = .ok ids) :
    ∃ s', s.selectFrom request = .ok s' := by
  unfold selectFrom
  split
  · next selection hselection =>
    obtain ⟨ids, hids⟩ := h selection hselection
    exact ⟨_, select_eq_ok hids⟩
  · exact ⟨s, rfl⟩

/-- **A request compiles** on an entity without custom filter when each part of it does. -/
theorem Registry.exists_compile_eq {r : Registry} {subject : Subject} {request : Request}
    {start : Scope} (hstart : subject.scope = .ok start)
    (hhook : r.hook? subject.entity.name = none)
    (hfilters : ∀ entry ∈ request.filters, request.column ≠ some entry.1 →
      ∃ p c, r.resolve subject.entity entry.1 = .ok p ∧ entry.2.entry p start.table = .ok c)
    (hselection : ∀ selection, Selection.ofRequest? request = some selection →
      ∃ ids, selection.toggled.mapM (literal start.primaryKey) = .ok ids)
    (hsorts : (sortTerms r subject.entity start.table request.sorts).2 = none) :
    ∃ q, r.compile subject request = .ok q := by
  have hcustom : (r.customize subject.entity request.customFilters start).toExcept =
      .ok start := by
    rw [customize, hhook]
    rfl
  obtain ⟨filtered, hfiltered⟩ := Scope.exists_filterAll_eq hfilters
  obtain ⟨conditions, rfl, -⟩ := Scope.filterAll_spec hfiltered
  rw [← Scope.primaryKey_applyAll start (conditions.map .restrict)] at hselection
  obtain ⟨selected, hselected⟩ := Scope.exists_selectFrom_eq hselection
  obtain ⟨ops, rfl, -⟩ := Scope.selectFrom_spec hselected
  have hsorted := Scope.sort_fault
    ((start.applyAll (conditions.map .restrict)).applyAll ops) r subject.entity request.sorts
  rw [Scope.table_applyAll, Scope.table_applyAll, hsorts] at hsorted
  rw [compile_eq]
  exact ⟨_, map_eq_ok.mpr ⟨_, bind_eq_ok.mpr ⟨_, bind_eq_ok.mpr ⟨start, hstart,
    bind_eq_ok.mpr ⟨start, hcustom, bind_eq_ok.mpr ⟨_, hfiltered, hselected⟩⟩⟩,
    Progress.toExcept_eq_ok.mpr ⟨hsorted, rfl⟩⟩, rfl⟩⟩

/-! ## The request for the rows of a value -/

/-- The filters of the request for the rows of a value. -/
lemma Request.mem_filterBack {request : Request} {column : String} {value : Json}
    {entry : String × FilterNode} :
    entry ∈ (request.filterBack column value).filters ↔
      entry = (column, .ofValue value) ∨ (entry ∈ request.filters ∧ entry.1 ≠ column) := by
  rw [filterBack, Keyed.mem_insert fun pair hpair => by simpa using (List.mem_filter.mp hpair).2,
    List.mem_filter, decide_eq_true_iff]

section

variable {r : Registry} {subject : Subject} {request : Request} {q : Query}
variable {column : String} {value : Json} {p : ColumnPath} {d : Condition}

/-- The request for the rows of a value compiles when the request for the listing does. -/
lemma Registry.exists_compile_filterBack (h : r.compile subject request = .ok q)
    (hhook : r.hook? subject.entity.name = none) (hcolumn : request.column = some column)
    (hp : r.resolve subject.entity column = .ok p)
    (hd : (FilterNode.ofValue value).entry p subject.entity.table = .ok d) :
    ∃ q', r.compile subject (request.filterBack column value) = .ok q' := by
  obtain ⟨start, conditions, selected, hstages⟩ := Registry.compile_spec h
  obtain ⟨htable, -⟩ := hstages.start_spec
  refine Registry.exists_compile_eq hstages.start_eq hhook (fun entry hentry _ => ?_)
    (fun selection hselection => ?_) hstages.sorts
  · rcases Request.mem_filterBack.mp hentry with rfl | ⟨hmem, hne⟩
    · exact ⟨p, d, hp, htable ▸ hd⟩
    · have hkept : entry ∈ request.filters.filter fun entry => request.column ≠ some entry.1 := by
        rw [List.mem_filter, decide_eq_true_iff, hcolumn]
        exact ⟨hmem, fun heq => hne (Option.some.inj heq).symm⟩
      obtain ⟨c, -, p', hp', hc⟩ := exists_of_mem_forall₂ hstages.filters.flip hkept
      exact ⟨p', c, hp', hc⟩
  · have hsame := hstages.selection
    rw [show Selection.ofRequest? request = some selection from hselection] at hsame
    obtain ⟨ids, hids, -⟩ := hsame
    exact ⟨ids, hids⟩

/-- The request for the rows of a value admits the rows of the listing that meet its filter. -/
lemma Registry.admits_filterBack_iff (env : Env V) (hcolumn : request.column = some column)
    (hp : r.resolve subject.entity column = .ok p)
    (hd : (FilterNode.ofValue value).entry p subject.entity.table = .ok d) :
    r.Admits S db subject (request.filterBack column value) env ↔
      r.Admits S db subject request env ∧ d.Holds S db env := by
  constructor
  · rintro ⟨hparent, hcustom, hfilters, hselection, hlive⟩
    obtain ⟨p', d', hp', hd', hholds⟩ :=
      hfilters _ (Request.mem_filterBack.mpr (.inl rfl)) nofun
    obtain rfl : p = p' := Except.ok.inj (hp.symm.trans hp')
    obtain rfl : d = d' := Except.ok.inj (hd.symm.trans hd')
    refine ⟨⟨hparent, hcustom, fun entry hentry hne => ?_, hselection, hlive⟩, hholds⟩
    have hother : entry.1 ≠ column := fun heq => hne (heq ▸ hcolumn)
    exact hfilters entry (Request.mem_filterBack.mpr (.inr ⟨hentry, hother⟩)) nofun
  · rintro ⟨⟨hparent, hcustom, hfilters, hselection, hlive⟩, hholds⟩
    refine ⟨hparent, hcustom, fun entry hentry _ => ?_, hselection, hlive⟩
    rcases Request.mem_filterBack.mp hentry with rfl | ⟨hmem, hne⟩
    · exact ⟨p, d, hp, hd, hholds⟩
    · exact hfilters entry hmem (by rw [hcolumn]; exact fun heq => hne (Option.some.inj heq).symm)

/-- A listing is one of the column that the request names. -/
lemma Query.resolve_of_listing {allowed : List String} {l : Listing}
    (hcolumn : q.request.column = some column) (h : q.listing r allowed = .ok l) :
    r.resolve q.subject.entity column = .ok l.path := by
  obtain ⟨-, column', hcolumn', hpath⟩ := Query.IsStatement.listing_spec h
  rw [hcolumn, Option.some.injEq] at hcolumn'
  exact hcolumn' ▸ hpath

/-- A listing finds the rows of its request with what the tables of the path make of each. -/
lemma Registry.Stages.mem_found_listing {start : Scope} {conditions : List Condition}
    {selected : List ScopeChange} {allowed : List String} {l : Listing}
    (h : r.Stages subject request q start conditions selected)
    (hhook : r.hook? subject.entity.name = none) (hlisting : q.listing r allowed = .ok l)
    {frames : Frames V} :
    frames ∈ l.statement.body.found S db ↔ ∃ row ∈ r.admitted S db subject request,
      frames ∈ leftJoined S db [[(subject.entity.table, row)]]
        (l.path.joins subject.entity.table) := by
  have htable : l.scope.table = subject.entity.table := by
    rw [(Query.IsStatement.listing_spec hlisting).1, h.table_eq]
  have hjoins : l.statement.body.joins = l.path.joins subject.entity.table := by
    rw [← htable]
    rfl
  have hnothing : ∀ op ∈ r.operations subject request, ∀ c,
      op.condition? subject.entity.table = some c →
        c.toExpr.labels ⊆ [subject.entity.table] := by
    rw [Registry.operations_of_hook?_eq_none hhook]
    exact fun _ hop => nomatch hop
  rw [h.found_eq S db (.listing hlisting) (.inr hnothing), hjoins, leftJoined_eq,
    extended_eq_flatMap]
  simp only [List.flatMap_map, List.mem_flatMap, leftJoined_eq]

/-- A value is listed when some row of the request contributes it. -/
lemma Registry.Stages.lists_iff {start : Scope} {conditions : List Condition}
    {selected : List ScopeChange} {allowed : List String} {l : Listing}
    (h : r.Stages subject request q start conditions selected)
    (hhook : r.hook? subject.entity.name = none) (hlisting : q.listing r allowed = .ok l)
    (hjson : l.path.isJson = false) {result : List (List (Cell V))}
    (hresult : l.statement.Returns S db result) (v : Option V) :
    Offers S result v ↔ ∃ row ∈ q.page.body.kept S db,
      l.path.Contributes S db subject.entity.table v row := by
  have htable : l.scope.table = subject.entity.table := by
    rw [(Query.IsStatement.listing_spec hlisting).1, h.table_eq]
  rw [l.lists_iff S db hjson hresult, h.kept_eq S db Query.IsStatement.page]
  simp only [h.mem_found_listing S db hhook hlisting, Listing.cell, htable]
  constructor
  · rintro ⟨frames, ⟨row, hrow, hframes⟩, hsame⟩
    exact ⟨row, hrow, frames, hframes, hsame⟩
  · rintro ⟨row, hrow, frames, hframes, hsame⟩
    exact ⟨frames, ⟨row, hrow, hframes⟩, hsame⟩

open Classical in
/-- **From listed values back to rows.** A value is listed when some row of the request contributes
it, and the request for the value compiles and keeps the rows of the request that lead to it. They
all contribute it. For a value other than null, and for null where no hop but the last reaches more
than one live row, they are all that contribute it, so the value is listed exactly when the request
for it keeps any row.

**Proof sketch.** The values of a listing are those of the rows it finds (`Listing.lists_iff`), which
are the admitted rows with what left joins make of them (`Stages.mem_found_listing`). The request for
the value admits the same rows if they meet its set filter (`admits_filterBack_iff`), that is, if
they lead to the value (`FilterNode.exists_entry_ofValue`). The rest is `contributes_iff_leadsTo`. -/
theorem Registry.listed_filters_back {allowed : List String} {l : Listing} {lit : Literal}
    (h : r.compile subject request = .ok q) (hhook : r.hook? subject.entity.name = none)
    (hcolumn : request.column = some column) (hlisting : q.listing r allowed = .ok l)
    (hjson : l.path.isJson = false) (hvalue : literal column value = .ok lit) :
    (∀ result, l.statement.Returns S db result →
      (Offers S result (S.literal lit) ↔ ∃ row ∈ q.page.body.kept S db,
        l.path.Contributes S db subject.entity.table (S.literal lit) row)) ∧
    ∃ q', r.compile subject (request.filterBack column value) = .ok q' ∧
      q'.page.body.kept S db =
        (q.page.body.kept S db).filter (fun row => l.path.LeadsTo S db (S.literal lit) row) ∧
      (∀ row, l.path.LeadsTo S db (S.literal lit) row →
        l.path.Contributes S db subject.entity.table (S.literal lit) row) ∧
      ((value ≠ .null ∨ ∀ hop ∈ l.path.hops.dropLast, hop.AtMostOne S db) →
        q'.page.body.kept S db = (q.page.body.kept S db).filter (fun row =>
          l.path.Contributes S db subject.entity.table (S.literal lit) row) ∧
        ∀ result, l.statement.Returns S db result →
          (Offers S result (S.literal lit) ↔ q'.page.body.kept S db ≠ [])) := by
  obtain ⟨start, conditions, selected, hstages⟩ := Registry.compile_spec h
  have hpath : r.resolve subject.entity column = .ok l.path := by
    have hnamed : q.request.column = some column := by rw [hstages.request_eq, hcolumn]
    rw [← hstages.subject_eq]
    exact Query.resolve_of_listing hnamed hlisting
  have hkept := hstages.kept_eq S db Query.IsStatement.page
  obtain ⟨d, hd, hmeets⟩ := FilterNode.exists_entry_ofValue S db hjson
    (literal_column hvalue) subject.entity.table
  obtain ⟨q', hq'⟩ := Registry.exists_compile_filterBack h hhook hcolumn hpath hd
  obtain ⟨start', conditions', selected', hstages'⟩ := Registry.compile_spec hq'
  have hkept' : q'.page.body.kept S db =
      (q.page.body.kept S db).filter (fun row => l.path.LeadsTo S db (S.literal lit) row) := by
    rw [hkept, hstages'.kept_eq S db Query.IsStatement.page, admitted, admitted,
      List.filter_filter]
    refine List.filter_congr fun row _ => ?_
    rw [Bool.eq_iff_iff, Bool.and_eq_true]
    simp only [decide_eq_true_eq]
    rw [admits_filterBack_iff S db _ hcolumn hpath hd, hmeets, and_comm]
  have hlisted : ∀ result, l.statement.Returns S db result → (Offers S result (S.literal lit) ↔ _) :=
    fun result hresult => hstages.lists_iff S db hhook hlisting hjson hresult (S.literal lit)
  refine ⟨hlisted, q', hq', hkept', fun row hrow => hrow.contributes S db _, fun hfew => ?_⟩
  have hagree : ∀ row, l.path.Contributes S db subject.entity.table (S.literal lit) row ↔
      l.path.LeadsTo S db (S.literal lit) row := by
    refine fun row => ColumnPath.contributes_iff_leadsTo S db (hfew.imp_left fun hne => ?_) _
    rw [Ne, cell_eq_none_iff S hvalue]
    cases value with
    | null => exact absurd rfl hne
    | _ => exact Bool.false_ne_true
  have hall : q'.page.body.kept S db = (q.page.body.kept S db).filter (fun row =>
      l.path.Contributes S db subject.entity.table (S.literal lit) row) := by
    rw [hkept']
    exact List.filter_congr fun row _ => decide_eq_decide.mpr (hagree row).symm
  refine ⟨hall, fun result hresult => (hlisted result hresult).trans ?_⟩
  rw [hall, Ne, List.filter_eq_nil_iff]
  simp

end

/-- The keeper of two flamingos, of which only the first is vaccinated: the vaccine that is listed
leads back to the keeper. -/
theorem Registry.listed_filters_back_vaccines :
    ∃ r q l, Zoo.registry = .ok r ∧
      r.compile { entity := Zoo.keepers } { column := some "flamingos.vaccinations.vaccine" } =
        .ok q ∧
      r.hook? Zoo.keepers.name = none ∧ q.listing r ["*"] = .ok l ∧ l.path.isJson = false ∧
      literal "flamingos.vaccinations.vaccine" (.string "H5") = .ok (.string "H5") ∧
      ∃ q', r.compile { entity := Zoo.keepers }
          (Request.filterBack { column := some "flamingos.vaccinations.vaccine" }
            "flamingos.vaccinations.vaccine" (.string "H5")) = .ok q' ∧
        q'.page.body.kept Scalars.ofLiterals Zoo.flock =
          (q.page.body.kept Scalars.ofLiterals Zoo.flock).filter (fun row =>
            l.path.Contributes Scalars.ofLiterals Zoo.flock "keepers"
              (Scalars.ofLiterals.literal (.string "H5")) row) ∧
        ∀ result, l.statement.Returns Scalars.ofLiterals Zoo.flock result →
          (Offers Scalars.ofLiterals result (Scalars.ofLiterals.literal (.string "H5")) ↔
            q'.page.body.kept Scalars.ofLiterals Zoo.flock ≠ []) := by
  refine ⟨_, _, _, rfl, rfl, rfl, rfl, rfl, rfl, ?_⟩
  exact Exists.imp (fun q' hq' => ⟨hq'.1, hq'.2.2.2 (.inl nofun)⟩)
    (Registry.listed_filters_back Scalars.ofLiterals Zoo.flock rfl rfl rfl
      (show Query.listing _ _ ["*"] = .ok _ from rfl) rfl rfl).2

/-- **A listed null is lost.** The second flamingo of the keeper brings null into the listing of the
vaccines, but the first one is vaccinated, and the set filter of null selects nobody. -/
theorem Registry.listed_null_is_lost :
    ∃ r q q' l, Zoo.registry = .ok r ∧
      r.compile { entity := Zoo.keepers } { column := some "flamingos.vaccinations.vaccine" } =
        .ok q ∧
      r.hook? Zoo.keepers.name = none ∧ q.listing r ["*"] = .ok l ∧ l.path.isJson = false ∧
      r.compile { entity := Zoo.keepers }
          (Request.filterBack { column := some "flamingos.vaccinations.vaccine" }
            "flamingos.vaccinations.vaccine" .null) = .ok q' ∧
      q.page.body.kept Scalars.ofLiterals Zoo.flock = [Zoo.keeper] ∧
      l.path.Contributes Scalars.ofLiterals Zoo.flock "keepers" none Zoo.keeper ∧
      (∀ result, l.statement.Returns Scalars.ofLiterals Zoo.flock result →
        Offers Scalars.ofLiterals result none) ∧
      q'.page.body.kept Scalars.ofLiterals Zoo.flock = [] := by
  refine ⟨_, _, _, _, rfl, rfl, rfl, rfl, rfl, rfl, rfl, ?_, fun result hresult => ?_, ?_⟩
  · decide +kernel
  · exact (Listing.lists_iff _ _ rfl hresult none).mpr (by decide +kernel)
  · exact List.isEmpty_iff.mp (by decide +kernel)

end DataGrid
