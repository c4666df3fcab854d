import DataGrid.Filter.Value
import DataGrid.Path.Chain

/-!
# Compiled filters

The condition that a filter tree puts on a column.

## Main definitions

* `DataGrid.readTag` — the kinds, junctions and operators by their tags.
* `DataGrid.LeafFilter.compile` — the condition of a leaf on the table that holds the column.
* `DataGrid.FilterNode.compile` — the condition of a tree on that table.
* `DataGrid.FilterNode.entry` — the condition of a tree on the subject, through the relations of
  the path.
-/

namespace DataGrid

open Sql

/-! ## Tags -/

section

variable {α : Type}

/-- What a tag stands for in a table of tags; a tag that stands for nothing is refused. -/
def readTag (ofTag? : String → Option α) (fault : String → TagFault) (tag : String) :
    Except Fault α :=
  match ofTag? tag with
  | some a => .ok a
  | none => .error (.unknownTag (fault tag))

variable {ofTag? : String → Option α} {fault : String → TagFault} {tag : String}

/-- What is read is what the tag stands for. -/
theorem readTag_eq_ok {a : α} : readTag ofTag? fault tag = .ok a ↔ ofTag? tag = some a := by
  unfold readTag
  cases ofTag? tag with
  | none => exact iff_of_false nofun nofun
  | some b => rw [Except.ok.injEq, Option.some.injEq]

/-- A tag that stands for nothing is named by the fault. -/
theorem readTag_eq_error (h : ∀ a, ofTag? tag ≠ some a) :
    readTag ofTag? fault tag = .error (.unknownTag (fault tag)) := by
  rw [readTag, Option.eq_none_iff_forall_ne_some.mpr h]

end

/-- The kind named by a tag. -/
def FilterKind.ofTag : String → Except Fault FilterKind := readTag ofTag? .kind

/-- The junction named by a tag. -/
def Sql.Junction.ofTag : String → Except Fault Junction := readTag ofTag? .junction

/-- The text operator named by a tag. -/
def TextOperator.ofTag : String → Except Fault TextOperator := readTag ofTag? (.operator .text)

/-- The number operator named by a tag. -/
def NumberOperator.ofTag : String → Except Fault NumberOperator :=
  readTag ofTag? (.operator .number)

/-- The date operator named by a tag. -/
def DateOperator.ofTag : String → Except Fault DateOperator := readTag ofTag? (.operator .date)

namespace LeafFilter

/-! ## Leaves

In this section `p` is the path of the column and `label` the name of the table that holds it.
-/

variable (f : LeafFilter) (p : ColumnPath) (label : String)

/-- The tag of the operator. -/
def operatorTag : Except Fault String :=
  match f.operator with
  | some tag => .ok tag
  | none => .error (.unknownTag (.missingOperator f.filterType p.id))

/-- Whether the values of a set filter hold null. -/
def selectsNull : Bool := f.values.any Json.isNull

/-- The literals of a set filter. -/
def literals : Except Fault (List Literal) :=
  (f.values.filter fun v => !v.isNull).mapM (literal p.id)

/-- The condition of a set filter: the column has one of the values, or is null if null is among
them. Without values nothing is selected. -/
def compileSet : Except Fault Condition := do
  if p.isJson then throw (.unsupported p.id .setOnJson)
  let values ← f.literals p
  let column := p.expr label
  return match values.isEmpty, f.selectsNull with
    | true, true => .ofExpr (.isNull false column)
    | false, true =>
      (Condition.any.addExpr (.isIn false column values)).addExpr (.isNull false column)
    | _, false => .ofExpr (.isIn false column values)

/-- The column as text: anything but a text column or a value inside a document is cast. -/
def textExpr : Expr :=
  if p.isTextual || p.isNested then p.expr label else .cast (p.expr label) "text"

/-- The condition of a text filter. -/
def compileText : Except Fault Condition := do
  let operator ← TextOperator.ofTag (← f.operatorTag p)
  let value := textOperand p.id f.filter
  let pattern := value.map escapeWildcards
  let column := textExpr p label
  match operator with
  | .equals => return .ofExpr (.compare .eq column (.literal (.string (← value))))
  | .notEqual => return .ofExpr (.compare .ne column (.literal (.string (← value))))
  | .contains => return .ofExpr (.like false column ("%" ++ (← pattern) ++ "%"))
  | .notContains => return .ofExpr (.like true column ("%" ++ (← pattern) ++ "%"))
  | .startsWith => return .ofExpr (.like false column ((← pattern) ++ "%"))
  | .endsWith => return .ofExpr (.like false column ("%" ++ (← pattern)))
  | .blank => return .ofExpr (.isNull false (p.expr label))
  | .notBlank => return .ofExpr (.isNull true (p.expr label))

/-- The column as a number: values of documents are cast. -/
def numberExpr : Expr := if p.isJson then .cast (p.expr label) "numeric" else p.expr label

/-- The condition that compares the column with the operand of a number filter. -/
def compareNumber (op : Comparison) : Except Fault Condition := do
  let value ← numberOperand p.id .filter f.filter
  return .ofExpr (.compare op (numberExpr p label) (.literal value))

/-- The condition of a number filter. Of a range the upper bound is read first. -/
def compileNumber : Except Fault Condition := do
  match ← NumberOperator.ofTag (← f.operatorTag p) with
  | .equals => f.compareNumber p label .eq
  | .notEqual => f.compareNumber p label .ne
  | .greaterThan => f.compareNumber p label .gt
  | .greaterThanOrEqual => f.compareNumber p label .ge
  | .lessThan => f.compareNumber p label .lt
  | .lessThanOrEqual => f.compareNumber p label .le
  | .inRange =>
    let upper ← numberOperand p.id .filterTo f.filterTo
    let lower ← numberOperand p.id .filter f.filter
    let column := numberExpr p label
    return (Condition.all.addExpr (.compare .ge column (.literal lower))).addExpr
      (.compare .le column (.literal upper))
  | .blank => return .ofExpr (.isNull false (p.expr label))
  | .notBlank => return .ofExpr (.isNull true (p.expr label))

/-- The column as a day; a whole document has none. -/
def dateExpr : Except Fault Expr :=
  if p.isDocument then .error (.unsupported p.id .dateOnDocument)
  else .ok (.cast (p.expr label) "date")

/-- The condition that compares the column with the first endpoint of a date filter. -/
def compareDate (op : Comparison) : Except Fault Condition := do
  let column ← dateExpr p label
  let day ← dateOperand p.id .dateFrom f.dateFrom
  return .ofExpr (.compare op column (.literal (.string day)))

/-- The condition of a date filter. Both bounds of a range belong to it; the upper one is read
first. -/
def compileDate : Except Fault Condition := do
  match ← DateOperator.ofTag (← f.operatorTag p) with
  | .blank => return .ofExpr (.isNull false (p.expr label))
  | .notBlank => return .ofExpr (.isNull true (p.expr label))
  | .equals => f.compareDate p label .eq
  | .notEqual => f.compareDate p label .ne
  | .greaterThan => f.compareDate p label .ge
  | .lessThan => f.compareDate p label .le
  | .inRange =>
    let upper ← dateOperand p.id .dateTo f.dateTo
    let column ← dateExpr p label
    let lower ← dateOperand p.id .dateFrom f.dateFrom
    return (Condition.all.addExpr (.compare .ge column (.literal (.string lower)))).addExpr
      (.compare .le column (.literal (.string upper)))

/-- The condition of a leaf filter. -/
def compile : Except Fault Condition := do
  match ← FilterKind.ofTag f.filterType with
  | .set => f.compileSet p label
  | .text => f.compileText p label
  | .number => f.compileNumber p label
  | .date => f.compileDate p label

end LeafFilter

namespace FilterNode

/-! ## Trees -/

mutual

/-- The condition of a filter tree on the table that holds the column. -/
def compile (p : ColumnPath) (label : String) : FilterNode → Except Fault Condition
  | .leaf f => f.compile p label
  | .group operator conditions =>
    match Junction.ofTag operator with
    | .error e => .error e
    | .ok junction => compileInto p label ⟨false, junction, []⟩ conditions

/-- The conditions of nodes, put one after the other into a group. -/
def compileInto (p : ColumnPath) (label : String) (group : Condition) :
    List FilterNode → Except Fault Condition
  | [] => .ok group
  | node :: rest =>
    match compile p label node with
    | .error e => .error e
    | .ok c => compileInto p label (group.add c) rest

end

/-- Whether the tree is a single set filter that selects missing values. -/
def selectsNull : FilterNode → Bool
  | .leaf f => FilterKind.ofTag? f.filterType == some .set && f.selectsNull
  | .group _ _ => false

/-- The condition of a filter tree on the subject called `base`. A path through relations asks for
a related row that meets the condition; a set filter that selects missing values is also met when
there is no related row. -/
def entry (node : FilterNode) (p : ColumnPath) (base : String) : Except Fault Condition := do
  let predicate ← node.compile p (p.leafLabel base)
  let related := p.related base predicate
  return match p.missing? base, node.selectsNull with
    | some missing, true => (Condition.any.add related).addExpr missing
    | _, _ => related

end FilterNode

end DataGrid
