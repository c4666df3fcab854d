import DataGrid.Proofs.Keyed
import DataGrid.Proofs.Filter.Leaves

/-!
# Operators of leaf filters

How a leaf filter is read: its kind and its operator by their tags, and its operands by the
operator. A leaf compiles as soon as its operator can read what it needs.

## Main definitions

* `DataGrid.TextOperator.tag`, `DataGrid.NumberOperator.tag`, `DataGrid.DateOperator.tag` — the tags
  of the operators.
* `DataGrid.LeafFilter.compileAs` — the condition of a leaf that is taken to be of a kind.

## Main results

* `DataGrid.FilterKind.isTagTable`, `DataGrid.TextOperator.isTagTable`,
  `DataGrid.NumberOperator.isTagTable`, `DataGrid.DateOperator.isTagTable` — kinds and operators are
  read off their tags and nothing else.
* `DataGrid.LeafFilter.exists_compileSet`, `exists_compileText`, `exists_compileNumber`,
  `exists_compileDate` — when a leaf of each kind compiles.
-/

namespace DataGrid

open Sql

/-! ## Tags -/

/-- The tag of a text operator. -/
def TextOperator.tag : TextOperator → String
  | .equals => "equals"
  | .notEqual => "notEqual"
  | .contains => "contains"
  | .notContains => "notContains"
  | .startsWith => "startsWith"
  | .endsWith => "endsWith"
  | .blank => "blank"
  | .notBlank => "notBlank"

/-- The tag of a number operator. -/
def NumberOperator.tag : NumberOperator → String
  | .equals => "equals"
  | .notEqual => "notEqual"
  | .greaterThan => "greaterThan"
  | .greaterThanOrEqual => "greaterThanOrEqual"
  | .lessThan => "lessThan"
  | .lessThanOrEqual => "lessThanOrEqual"
  | .inRange => "inRange"
  | .blank => "blank"
  | .notBlank => "notBlank"

/-- The tag of a date operator. -/
def DateOperator.tag : DateOperator → String
  | .equals => "equals"
  | .notEqual => "notEqual"
  | .greaterThan => "greaterThan"
  | .lessThan => "lessThan"
  | .inRange => "inRange"
  | .blank => "blank"
  | .notBlank => "notBlank"

/-- The tags of the kinds are those by which they are read. -/
lemma FilterKind.isTagTable : Keyed.IsTagTable tags tag :=
  ⟨fun kind => by cases kind <;> rfl, by decide⟩

/-- The tags of the text operators are those by which they are read. -/
lemma TextOperator.isTagTable : Keyed.IsTagTable tags tag :=
  ⟨fun operator => by cases operator <;> rfl, by decide⟩

/-- The tags of the number operators are those by which they are read. -/
lemma NumberOperator.isTagTable : Keyed.IsTagTable tags tag :=
  ⟨fun operator => by cases operator <;> rfl, by decide⟩

/-- The tags of the date operators are those by which they are read. -/
lemma DateOperator.isTagTable : Keyed.IsTagTable tags tag :=
  ⟨fun operator => by cases operator <;> rfl, by decide⟩

namespace LeafFilter

variable {f : LeafFilter} {p : ColumnPath} {label : String} {c : Condition}

/-- The operator that is read is the one that the filter has the tag of. -/
lemma operator_of_readTag {α : Type} {table : List (String × α)} {tagOf : α → String}
    (htable : Keyed.IsTagTable table tagOf) {operator : α} {fault : String → TagFault}
    {tag : String} (h : f.operatorTag p = .ok tag)
    (hread : readTag (fun tag => Keyed.find? tag table) fault tag = .ok operator) :
    f.operator = some (tagOf operator) := by
  rw [operator_of_operatorTag h, htable.find?_eq_some.mp (readTag_eq_ok.mp hread)]

/-! ## Kinds -/

/-- The condition of a leaf filter that is taken to be of the given kind. -/
def compileAs (f : LeafFilter) (p : ColumnPath) (label : String) :
    FilterKind → Except Fault Condition
  | .set => f.compileSet p label
  | .text => f.compileText p label
  | .number => f.compileNumber p label
  | .date => f.compileDate p label

/-- A leaf is compiled by its kind. -/
lemma compile_of_kind (kind : FilterKind) (h : f.filterType = kind.tag) :
    f.compile p label = f.compileAs p label kind := by
  have hread : FilterKind.ofTag f.filterType = .ok kind :=
    readTag_eq_ok.mpr (FilterKind.isTagTable.find?_eq_some.mpr h)
  rw [compile, hread]
  rfl

/-- A leaf that compiles has a kind. -/
lemma exists_kind (h : f.compile p label = .ok c) :
    ∃ kind : FilterKind, f.filterType = kind.tag := by
  obtain ⟨kind, hkind, -⟩ := bind_eq_ok.mp h
  exact ⟨kind, FilterKind.isTagTable.find?_eq_some.mp (readTag_eq_ok.mp hkind)⟩

/-- A test for null, or for values if it is negated, compiles to the same condition for every kind
and all operands. -/
lemma compile_nullTest (negated : Bool) (hkind : ∃ kind : FilterKind, f.filterType = kind.tag)
    (hset : f.filterType ≠ "set")
    (hoperator : f.operator = some (if negated then "notBlank" else "blank")) :
    f.compile p label = .ok (.ofExpr (.isNull negated (p.expr label))) := by
  obtain ⟨kind, hkind⟩ := hkind
  rw [compile_of_kind kind hkind]
  cases kind with
  | set => exact absurd hkind hset
  | text =>
    rw [compileAs, compileText, operatorTag, hoperator]
    cases negated <;> rfl
  | number =>
    rw [compileAs, compileNumber, operatorTag, hoperator]
    cases negated <;> rfl
  | date =>
    rw [compileAs, compileDate, operatorTag, hoperator]
    cases negated <;> rfl

/-! ## Leaves that compile -/

/-- A text filter compiles when it has an operator and its operand can be read. -/
lemma exists_compileText {operator : TextOperator} (hoperator : f.operator = some operator.tag)
    (hvalue : operator ≠ .blank → operator ≠ .notBlank →
      ∃ value, textOperand p.id f.filter = .ok value) : ∃ c, f.compileText p label = .ok c := by
  have hread : TextOperator.ofTag operator.tag = .ok operator :=
    readTag_eq_ok.mpr (TextOperator.isTagTable.find?_tag operator)
  simp only [compileText, operatorTag, hoperator, bind, Except.bind, hread]
  cases operator with
  | blank | notBlank => exact ⟨_, rfl⟩
  | _ =>
    obtain ⟨value, hvalue⟩ := hvalue nofun nofun
    rw [hvalue]
    exact ⟨_, rfl⟩

/-- A number filter compiles when it has an operator and its operands can be read. -/
lemma exists_compileNumber {operator : NumberOperator} (hoperator : f.operator = some operator.tag)
    (hvalue : operator ≠ .blank → operator ≠ .notBlank →
      ∃ value, numberOperand p.id .filter f.filter = .ok value)
    (hupper : operator = .inRange → ∃ upper, numberOperand p.id .filterTo f.filterTo = .ok upper) :
    ∃ c, f.compileNumber p label = .ok c := by
  have hread : NumberOperator.ofTag operator.tag = .ok operator :=
    readTag_eq_ok.mpr (NumberOperator.isTagTable.find?_tag operator)
  simp only [compileNumber, compareNumber, operatorTag, hoperator, bind, Except.bind, hread]
  cases operator with
  | blank | notBlank => exact ⟨_, rfl⟩
  | inRange =>
    obtain ⟨upper, hupper⟩ := hupper rfl
    obtain ⟨value, hvalue⟩ := hvalue nofun nofun
    rw [hupper, hvalue]
    exact ⟨_, rfl⟩
  | _ =>
    obtain ⟨value, hvalue⟩ := hvalue nofun nofun
    rw [hvalue]
    exact ⟨_, rfl⟩

/-- A date filter compiles when it has an operator, its column is no whole document, and its
endpoints can be read. -/
lemma exists_compileDate {operator : DateOperator} (hoperator : f.operator = some operator.tag)
    (hstart : operator ≠ .blank → operator ≠ .notBlank →
      p.isDocument = false ∧ ∃ start, dateOperand p.id .dateFrom f.dateFrom = .ok start)
    (hstop : operator = .inRange → ∃ stop, dateOperand p.id .dateTo f.dateTo = .ok stop) :
    ∃ c, f.compileDate p label = .ok c := by
  have hread : DateOperator.ofTag operator.tag = .ok operator :=
    readTag_eq_ok.mpr (DateOperator.isTagTable.find?_tag operator)
  simp only [compileDate, compareDate, dateExpr, operatorTag, hoperator, bind, Except.bind, hread]
  cases operator with
  | blank | notBlank => exact ⟨_, rfl⟩
  | inRange =>
    obtain ⟨stop, hstop⟩ := hstop rfl
    obtain ⟨hscalar, start, hstart⟩ := hstart nofun nofun
    rw [hstop, hscalar, hstart]
    exact ⟨_, rfl⟩
  | _ =>
    obtain ⟨hscalar, start, hstart⟩ := hstart nofun nofun
    rw [hscalar, hstart]
    exact ⟨_, rfl⟩

/-- A set filter compiles when its values are scalars, on all columns but documents and their
parts. -/
lemma exists_compileSet (hjson : p.isJson = false)
    (hvalues : ∀ j ∈ f.values, j.isNull = false → ∃ l, literal p.id j = .ok l) :
    ∃ c, f.compileSet p label = .ok c := by
  have hliterals : ∃ values, f.literals p = .ok values := by
    refine exists_mapM_eq_ok fun j hj => ?_
    obtain ⟨hmem, hvalue⟩ := List.mem_filter.mp hj
    exact hvalues j hmem (by simpa using hvalue)
  obtain ⟨values, hliterals⟩ := hliterals
  rw [compileSet, hjson, hliterals]
  exact ⟨_, rfl⟩

/-- A set filter that compiles is on such a column and has such values. -/
lemma scalars_of_compileSet (h : f.compileSet p label = .ok c) :
    p.isJson = false ∧ ∀ j ∈ f.values, j.isNull = false → ∃ l, literal p.id j = .ok l := by
  unfold compileSet at h
  split at h
  · cases h
  · next hjson =>
    obtain ⟨values, hvalues, -⟩ := bind_eq_ok.mp h
    refine ⟨Bool.eq_false_iff.mpr hjson, fun j hj hvalue => ?_⟩
    have hfilter : j ∈ f.values.filter fun v => !v.isNull :=
      List.mem_filter.mpr ⟨hj, by rw [hvalue]; rfl⟩
    obtain ⟨l, -, hl⟩ := exists_of_mem_forall₂ (forall₂_of_mapM_eq_ok hvalues).flip hfilter
    exact ⟨l, hl⟩

end LeafFilter

/-! ## Days -/

/-- An endpoint is read as a day, whatever it is an endpoint of. -/
lemma dateOperand_eq_ok {column : String} {operand : Operand} {given : Option String}
    {day : String} : dateOperand column operand given = .ok day ↔
      ∃ raw d, given = some raw ∧ Day.read? raw = some d ∧ d.text = day := by
  unfold dateOperand
  cases given with
  | none =>
    refine iff_of_false nofun ?_
    rintro ⟨_, _, hgiven, -⟩
    cases hgiven
  | some raw =>
    dsimp only
    split
    · next d hread =>
      rw [Except.ok.injEq]
      constructor
      · intro htext
        exact ⟨raw, d, rfl, hread, htext⟩
      · rintro ⟨_, d', hsame, hread', htext⟩
        obtain rfl := Option.some.inj hsame
        obtain rfl := Option.some.inj (hread.symm.trans hread')
        exact htext
    · next hread =>
      refine iff_of_false nofun ?_
      rintro ⟨_, d, hsame, hread', -⟩
      obtain rfl := Option.some.inj hsame
      cases hread.symm.trans hread'

end DataGrid
