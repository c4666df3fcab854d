import DataGrid.Proofs.Decimal.Numerals
import DataGrid.Proofs.Filter.Operators
import DataGrid.Schema.Zoo

/-!
# The grammar of filter trees

Which filter trees compile, and what is said about the others. A tree is well formed on a path when
each of its nodes is: a group by its operator, a leaf by its kind, its operator and the operands
that the operator reads. Every other tree is refused with the fault of the first node that is not
well formed, a group coming before its conditions.

## Main definitions

* `DataGrid.LeafFilter.IsWellFormed`, `DataGrid.FilterNode.IsWellFormed` — leaves and trees that are
  well formed on a path.
* `DataGrid.LeafFilter.Rejected` — what is said about any other leaf.
* `DataGrid.FilterNode.preorder` — the nodes of a tree, each before its conditions.
* `DataGrid.FilterNode.FirstFault` — the fault of the first node that has one.
* `DataGrid.FilterNode.HasBadTag`, `DataGrid.FilterNode.IsUnsupported` — the nodes whose fault is not
  about an operand.

## Main results

* `DataGrid.LeafFilter.compile_of_isWellFormed`, `DataGrid.LeafFilter.compile_of_rejected` — what
  becomes of a leaf.
* `DataGrid.FilterNode.entry_follows_grammar` — what becomes of a tree.

## Implementation notes

Operands are read when the operator asks for them, and of a range the upper one first. On a whole
document a date filter is refused before its endpoint is looked at, but a range of days has its end
read before: it is refused for the end if that cannot be read.
-/

namespace DataGrid

open Sql

/-! ## Tags -/

/-- The tags of groups: AND and OR, whatever the case of their ASCII letters. -/
def IsJunctionTag (tag : String) : Prop := tag.toLower = "and" ∨ tag.toLower = "or"

/-- The lower case of ASCII letters is that of the core library. -/
lemma lowerAscii_eq_toLower (c : Char) : lowerAscii c = c.toLower := by
  unfold lowerAscii Char.toLower
  by_cases h : 'A' ≤ c ∧ c ≤ 'Z'
  · have hval : c.val ≥ 'A'.val ∧ c.val ≤ 'Z'.val := h
    rw [if_pos h, dif_pos hval]
    have hupper : c.val.toNat ≤ 90 := h.2
    have hvalue : (c.val + ('a'.val - 'A'.val)).toNat = c.toNat + 32 := by
      rw [UInt32.toNat_add]
      exact Nat.mod_eq_of_lt (by change c.val.toNat + 32 < 2 ^ 32; omega)
    rw [← hvalue]
    exact Char.ofNat_toNat ⟨c.val + ('a'.val - 'A'.val), _⟩
  · have hval : ¬(c.val ≥ 'A'.val ∧ c.val ≤ 'Z'.val) := h
    rw [if_neg h, dif_neg hval]

/-- These tags are read as junctions, and no others. -/
lemma exists_junction_iff {tag : String} :
    (∃ junction, Junction.ofTag tag = .ok junction) ↔ IsJunctionTag tag := by
  have hlower : tag.toLower = String.ofList (tag.toList.map lowerAscii) := by
    have hmap : tag.toLower = tag.map Char.toLower := rfl
    rw [← String.toList_inj, String.toList_ofList, hmap, String.toList_map,
      funext lowerAscii_eq_toLower]
  rw [IsJunctionTag, hlower]
  constructor
  · rintro ⟨junction, h⟩
    have hmem := Keyed.mem_of_find? (readTag_eq_ok.mp h)
    rw [Junction.tags, List.mem_pair, Prod.mk.injEq, Prod.mk.injEq] at hmem
    exact hmem.imp And.left And.left
  · rintro (h | h)
    · exact ⟨.all, readTag_eq_ok.mpr (by rw [Junction.ofTag?, h]; rfl)⟩
    · exact ⟨.any, readTag_eq_ok.mpr (by rw [Junction.ofTag?, h]; rfl)⟩

/-- Every other tag of a group is refused by name. -/
lemma ofTag_eq_error_of_not_isJunctionTag {tag : String} (h : ¬ IsJunctionTag tag) :
    Junction.ofTag tag = .error (.unknownTag (.junction tag)) :=
  readTag_eq_error fun junction hread =>
    h (exists_junction_iff.mp ⟨junction, readTag_eq_ok.mpr hread⟩)

/-- The tags of the operators of a kind; set filters have none. -/
def FilterKind.HasOperator : FilterKind → String → Prop
  | .set, _ => False
  | .text, tag => ∃ operator : TextOperator, tag = operator.tag
  | .number, tag => ∃ operator : NumberOperator, tag = operator.tag
  | .date, tag => ∃ operator : DateOperator, tag = operator.tag

/-! ## Operands -/

/-- Neither an array nor an object. -/
inductive Json.IsScalar : Json → Prop
  | null : IsScalar .null
  | bool (b : Bool) : IsScalar (.bool b)
  | number (n : Json.Number) : IsScalar (.number n)
  | string (s : String) : IsScalar (.string s)

/-- What text filters compare with. -/
inductive Json.IsTextOperand : Json → Prop
  | string (s : String) : IsTextOperand (.string s)
  | number (n : Json.Number) : IsTextOperand (.number n)
  | bool (b : Bool) : IsTextOperand (.bool b)

/-- What number filters compare with. -/
inductive Json.IsNumberOperand : Json → Prop
  | number (n : Json.Number) : IsNumberOperand (.number n)
  | text {s : String} (h : IsNumberText s) : IsNumberOperand (.string s)

/-- What date filters compare with. -/
def IsDayText (raw : String) : Prop := ∃ day, Day.read? raw = some day

section

variable {α : Type}

/-- An operand is given and is of the right sort. -/
def IsGiven (sort : α → Prop) (given : Option α) : Prop := ∃ a, given = some a ∧ sort a

/-- Why an operand is refused: it is missing, or it is of the wrong sort. -/
inductive RefusedOperand (operand : Operand) (sort : α → Prop) (wrong : α → ValueFault) :
    Option α → ValueFault → Prop
  | missing : RefusedOperand operand sort wrong none (.missing operand)
  | wrong {a : α} (h : ¬ sort a) : RefusedOperand operand sort wrong (some a) (wrong a)

/-- There is no other reason. -/
lemma isGiven_or_refused (operand : Operand) (sort : α → Prop) (wrong : α → ValueFault)
    (given : Option α) :
    IsGiven sort given ∨ ∃ why, RefusedOperand operand sort wrong given why := by
  cases given with
  | none => exact .inr ⟨_, .missing⟩
  | some a =>
    by_cases h : sort a
    · exact .inl ⟨a, rfl, h⟩
    · exact .inr ⟨_, .wrong h⟩

end

/-- Why the operand of a text filter is refused. -/
abbrev RefusedText (given : Option Json) (why : ValueFault) : Prop :=
  RefusedOperand .filter Json.IsTextOperand (fun _ => .notText) given why

/-- Why an operand of a number filter is refused. -/
abbrev RefusedNumber (operand : Operand) (given : Option Json) (why : ValueFault) : Prop :=
  RefusedOperand operand Json.IsNumberOperand (fun _ => .notNumber operand) given why

/-- Why an endpoint of a date filter is refused. -/
abbrev RefusedDay (operand : Operand) (given : Option String) (why : ValueFault) : Prop :=
  RefusedOperand operand IsDayText (fun raw => .notDate operand raw) given why

section

variable {column : String} {operand : Operand} {why : ValueFault}

/-- An operand that is a text operand is read. -/
lemma exists_textOperand {given : Option Json} (h : IsGiven Json.IsTextOperand given) :
    ∃ value, textOperand column given = .ok value := by
  obtain ⟨_, rfl, hsort⟩ := h
  cases hsort <;> exact ⟨_, rfl⟩

/-- A refused text operand gives the fault that it is refused for. -/
lemma textOperand_of_refused {given : Option Json} (h : RefusedText given why) :
    textOperand column given = .error (.invalidValue column why) := by
  cases h with
  | missing => rfl
  | @wrong j h =>
    cases j with
    | string s => exact absurd (.string s) h
    | number n => exact absurd (.number n) h
    | bool b => exact absurd (.bool b) h
    | null | array | object => rfl

/-- An operand that is a number operand is read. -/
lemma exists_numberOperand {given : Option Json} (h : IsGiven Json.IsNumberOperand given) :
    ∃ value, numberOperand column operand given = .ok value := by
  obtain ⟨_, rfl, hsort⟩ := h
  cases hsort with
  | number n => exact ⟨_, rfl⟩
  | text htext =>
    obtain ⟨v, hv⟩ := exists_numberOfText?.mpr htext
    exact ⟨v, by rw [numberOperand]; simp only [hv]⟩

/-- A refused number operand gives the fault that it is refused for. -/
lemma numberOperand_of_refused {given : Option Json} (h : RefusedNumber operand given why) :
    numberOperand column operand given = .error (.invalidValue column why) := by
  cases h with
  | missing => rfl
  | @wrong j h =>
    cases j with
    | number n => exact absurd (.number n) h
    | string s =>
      cases hread : numberOfText? s with
      | some v => exact absurd (.text (exists_numberOfText?.mp ⟨v, hread⟩)) h
      | none => rw [numberOperand]; simp only [hread]
    | null | bool | array | object => rfl

/-- An endpoint that is a day is read. -/
lemma exists_dateOperand {given : Option String} (h : IsGiven IsDayText given) :
    ∃ day, dateOperand column operand given = .ok day := by
  obtain ⟨raw, rfl, day, hday⟩ := h
  exact ⟨day.text, dateOperand_eq_ok.mpr ⟨raw, day, rfl, hday, rfl⟩⟩

/-- A refused endpoint gives the fault that it is refused for. -/
lemma dateOperand_of_refused {given : Option String} (h : RefusedDay operand given why) :
    dateOperand column operand given = .error (.invalidValue column why) := by
  cases h with
  | missing => rfl
  | @wrong raw h =>
    rw [dateOperand]
    split
    · next day hday => exact absurd ⟨day, hday⟩ h
    · rfl

/-- A scalar has a literal. -/
lemma exists_literal {j : Json} (h : j.IsScalar) : ∃ value, literal column j = .ok value := by
  cases h <;> exact ⟨_, rfl⟩

/-- What is no scalar is refused as such. -/
lemma literal_of_not_isScalar {j : Json} (h : ¬ j.IsScalar) :
    literal column j = .error (.invalidValue column .notScalar) := by
  cases j with
  | null => exact absurd .null h
  | bool b => exact absurd (.bool b) h
  | number n => exact absurd (.number n) h
  | string s => exact absurd (.string s) h
  | array | object => rfl

/-- Of several values none becomes a literal when one of them is not a scalar. -/
lemma mapM_literal_eq_error {listed : List Json} (h : ∃ j ∈ listed, ¬ j.IsScalar) :
    listed.mapM (literal column) = .error (.invalidValue column .notScalar) := by
  obtain ⟨j, hj, hscalar⟩ := h
  refine mapM_eq_error (fun j _ => ?_) ⟨j, hj, literal_of_not_isScalar hscalar⟩
  by_cases hscalar : j.IsScalar
  · exact .inl (exists_literal hscalar)
  · exact .inr (literal_of_not_isScalar hscalar)

end

/-! ## Leaves -/

namespace LeafFilter

variable {f : LeafFilter} {p : ColumnPath} {label : String}

/-- A leaf is well formed on a path: it has a kind, an operator of this kind unless it is a set
filter, and the operands that the operator reads. The tests for null read none. -/
inductive IsWellFormed (p : ColumnPath) (f : LeafFilter) : Prop
  | set (hkind : f.filterType = "set") (hjson : p.isJson = false)
    (hvalues : ∀ j ∈ f.values, j.IsScalar)
  | blank {kind : FilterKind} (hkind : f.filterType = kind.tag) (hset : kind ≠ .set)
    (hoperator : f.operator = some "blank" ∨ f.operator = some "notBlank")
  | text {operator : TextOperator} (hkind : f.filterType = "text")
    (hoperator : f.operator = some operator.tag) (hfilter : IsGiven Json.IsTextOperand f.filter)
  | number {operator : NumberOperator} (hkind : f.filterType = "number")
    (hoperator : f.operator = some operator.tag) (hfilter : IsGiven Json.IsNumberOperand f.filter)
    (hto : operator = .inRange → IsGiven Json.IsNumberOperand f.filterTo)
  | date {operator : DateOperator} (hkind : f.filterType = "date")
    (hoperator : f.operator = some operator.tag) (hdocument : p.isDocument = false)
    (hfrom : IsGiven IsDayText f.dateFrom) (hto : operator = .inRange → IsGiven IsDayText f.dateTo)

/-- A leaf is not well formed on a path, and what is said about it. Of several reasons the first one
counts: the kind, then the column of a set filter or the operator, and last the operands, each when
it is read. -/
inductive Rejected (p : ColumnPath) (f : LeafFilter) : Fault → Prop
  | kind (hkind : ∀ kind : FilterKind, f.filterType ≠ kind.tag) :
    Rejected p f (.unknownTag (.kind f.filterType))
  | setOnJson (hkind : f.filterType = "set") (hjson : p.isJson = true) :
    Rejected p f (.unsupported p.id .setOnJson)
  | setValue (hkind : f.filterType = "set") (hjson : p.isJson = false) {j : Json} (hj : j ∈ f.values)
    (hscalar : ¬ j.IsScalar) : Rejected p f (.invalidValue p.id .notScalar)
  | missingOperator {kind : FilterKind} (hkind : f.filterType = kind.tag) (hset : kind ≠ .set)
    (hoperator : f.operator = none) :
    Rejected p f (.unknownTag (.missingOperator f.filterType p.id))
  | operator {kind : FilterKind} {tag : String} (hkind : f.filterType = kind.tag)
    (hset : kind ≠ .set) (hoperator : f.operator = some tag) (htag : ¬ kind.HasOperator tag) :
    Rejected p f (.unknownTag (.operator kind tag))
  | text {operator : TextOperator} {why : ValueFault} (hkind : f.filterType = "text")
    (hoperator : f.operator = some operator.tag) (hblank : operator ≠ .blank)
    (hnotBlank : operator ≠ .notBlank) (hfilter : RefusedText f.filter why) :
    Rejected p f (.invalidValue p.id why)
  | numberTo {why : ValueFault} (hkind : f.filterType = "number")
    (hoperator : f.operator = some "inRange") (hto : RefusedNumber .filterTo f.filterTo why) :
    Rejected p f (.invalidValue p.id why)
  | number {operator : NumberOperator} {why : ValueFault} (hkind : f.filterType = "number")
    (hoperator : f.operator = some operator.tag) (hblank : operator ≠ .blank)
    (hnotBlank : operator ≠ .notBlank)
    (hto : operator = .inRange → IsGiven Json.IsNumberOperand f.filterTo)
    (hfilter : RefusedNumber .filter f.filter why) : Rejected p f (.invalidValue p.id why)
  | dateTo {why : ValueFault} (hkind : f.filterType = "date")
    (hoperator : f.operator = some "inRange") (hto : RefusedDay .dateTo f.dateTo why) :
    Rejected p f (.invalidValue p.id why)
  | dateOnDocument {operator : DateOperator} (hkind : f.filterType = "date")
    (hoperator : f.operator = some operator.tag) (hblank : operator ≠ .blank)
    (hnotBlank : operator ≠ .notBlank) (hto : operator = .inRange → IsGiven IsDayText f.dateTo)
    (hdocument : p.isDocument = true) : Rejected p f (.unsupported p.id .dateOnDocument)
  | dateFrom {operator : DateOperator} {why : ValueFault} (hkind : f.filterType = "date")
    (hoperator : f.operator = some operator.tag) (hblank : operator ≠ .blank)
    (hnotBlank : operator ≠ .notBlank) (hto : operator = .inRange → IsGiven IsDayText f.dateTo)
    (hdocument : p.isDocument = false) (hfrom : RefusedDay .dateFrom f.dateFrom why) :
    Rejected p f (.invalidValue p.id why)

/-- **What is well formed compiles.** -/
theorem compile_of_isWellFormed (h : f.IsWellFormed p) : ∃ c, f.compile p label = .ok c := by
  cases h with
  | set hkind hjson hvalues =>
    rw [compile_of_kind .set hkind]
    exact exists_compileSet hjson fun j hj _ => exists_literal (hvalues j hj)
  | blank hkind hset hoperator =>
    have hset : f.filterType ≠ "set" := fun h => hset (FilterKind.isTagTable.tag_inj (hkind.symm.trans h))
    rcases hoperator with hoperator | hoperator
    · exact ⟨_, compile_nullTest false ⟨_, hkind⟩ hset hoperator⟩
    · exact ⟨_, compile_nullTest true ⟨_, hkind⟩ hset hoperator⟩
  | text hkind hoperator hfilter =>
    rw [compile_of_kind .text hkind]
    exact exists_compileText hoperator fun _ _ => exists_textOperand hfilter
  | number hkind hoperator hfilter hto =>
    rw [compile_of_kind .number hkind]
    exact exists_compileNumber hoperator (fun _ _ => exists_numberOperand hfilter)
      fun hrange => exists_numberOperand (hto hrange)
  | date hkind hoperator hdocument hfrom hto =>
    rw [compile_of_kind .date hkind]
    exact exists_compileDate hoperator (fun _ _ => ⟨hdocument, exists_dateOperand hfrom⟩)
      fun hrange => exists_dateOperand (hto hrange)

/-- **What is not well formed is refused**, with the fault that it is rejected for. -/
theorem compile_of_rejected {fault : Fault} (h : f.Rejected p fault) :
    f.compile p label = .error fault := by
  cases h with
  | kind hkind =>
    have hread : FilterKind.ofTag f.filterType = .error (.unknownTag (.kind f.filterType)) :=
      readTag_eq_error fun kind h => hkind kind (FilterKind.isTagTable.find?_eq_some.mp h)
    rw [compile, hread]
    rfl
  | setOnJson hkind hjson =>
    rw [compile_of_kind .set hkind, compileAs, compileSet, hjson]
    rfl
  | setValue hkind hjson hj hscalar =>
    have hliterals : f.literals p = .error (.invalidValue p.id .notScalar) := by
      refine mapM_literal_eq_error ⟨_, List.mem_filter.mpr ⟨hj, ?_⟩, hscalar⟩
      next j =>
        cases j with
        | null => exact absurd .null hscalar
        | _ => rfl
    rw [compile_of_kind .set hkind, compileAs, compileSet, hjson, hliterals]
    rfl
  | @missingOperator kind hkind hset hoperator =>
    rw [compile_of_kind kind hkind]
    cases kind with
    | set => exact absurd rfl hset
    | text => rw [compileAs, compileText, operatorTag, hoperator]; rfl
    | number => rw [compileAs, compileNumber, operatorTag, hoperator]; rfl
    | date => rw [compileAs, compileDate, operatorTag, hoperator]; rfl
  | @operator kind tag hkind hset hoperator htag =>
    rw [compile_of_kind kind hkind]
    cases kind with
    | set => exact absurd rfl hset
    | text =>
      have hread : TextOperator.ofTag tag = .error (.unknownTag (.operator .text tag)) :=
        readTag_eq_error fun operator h => htag ⟨operator, TextOperator.isTagTable.find?_eq_some.mp h⟩
      simp only [compileAs, compileText, operatorTag, hoperator, bind, Except.bind, hread]
    | number =>
      have hread : NumberOperator.ofTag tag = .error (.unknownTag (.operator .number tag)) :=
        readTag_eq_error fun operator h => htag ⟨operator, NumberOperator.isTagTable.find?_eq_some.mp h⟩
      simp only [compileAs, compileNumber, operatorTag, hoperator, bind, Except.bind, hread]
    | date =>
      have hread : DateOperator.ofTag tag = .error (.unknownTag (.operator .date tag)) :=
        readTag_eq_error fun operator h => htag ⟨operator, DateOperator.isTagTable.find?_eq_some.mp h⟩
      simp only [compileAs, compileDate, operatorTag, hoperator, bind, Except.bind, hread]
  | @text operator _ hkind hoperator hblank hnotBlank hfilter =>
    rw [compile_of_kind .text hkind]
    have hread : TextOperator.ofTag operator.tag = .ok operator :=
      readTag_eq_ok.mpr (TextOperator.isTagTable.find?_tag operator)
    simp only [compileAs, compileText, operatorTag, hoperator, bind, Except.bind, hread,
      textOperand_of_refused hfilter]
    cases operator with
    | blank => exact absurd rfl hblank
    | notBlank => exact absurd rfl hnotBlank
    | _ => rfl
  | numberTo hkind hoperator hto =>
    rw [compile_of_kind .number hkind, compileAs, compileNumber, operatorTag, hoperator,
      numberOperand_of_refused hto]
    rfl
  | @number operator _ hkind hoperator hblank hnotBlank hto hfilter =>
    rw [compile_of_kind .number hkind]
    have hread : NumberOperator.ofTag operator.tag = .ok operator :=
      readTag_eq_ok.mpr (NumberOperator.isTagTable.find?_tag operator)
    simp only [compileAs, compileNumber, compareNumber, operatorTag, hoperator, bind, Except.bind,
      hread, numberOperand_of_refused hfilter]
    cases operator with
    | blank => exact absurd rfl hblank
    | notBlank => exact absurd rfl hnotBlank
    | inRange =>
      obtain ⟨upper, hupper⟩ := exists_numberOperand (hto rfl)
      rw [hupper]
    | _ => rfl
  | dateTo hkind hoperator hto =>
    rw [compile_of_kind .date hkind, compileAs, compileDate, operatorTag, hoperator,
      dateOperand_of_refused hto]
    rfl
  | @dateOnDocument operator hkind hoperator hblank hnotBlank hto hdocument =>
    rw [compile_of_kind .date hkind]
    have hread : DateOperator.ofTag operator.tag = .ok operator :=
      readTag_eq_ok.mpr (DateOperator.isTagTable.find?_tag operator)
    simp only [compileAs, compileDate, compareDate, dateExpr, operatorTag, hoperator, bind,
      Except.bind, hread, hdocument]
    cases operator with
    | blank => exact absurd rfl hblank
    | notBlank => exact absurd rfl hnotBlank
    | inRange =>
      obtain ⟨stop, hstop⟩ := exists_dateOperand (hto rfl)
      rw [hstop]
      rfl
    | _ => rfl
  | @dateFrom operator _ hkind hoperator hblank hnotBlank hto hdocument hfrom =>
    rw [compile_of_kind .date hkind]
    have hread : DateOperator.ofTag operator.tag = .ok operator :=
      readTag_eq_ok.mpr (DateOperator.isTagTable.find?_tag operator)
    simp only [compileAs, compileDate, compareDate, dateExpr, operatorTag, hoperator, bind,
      Except.bind, hread, hdocument, dateOperand_of_refused hfrom]
    cases operator with
    | blank => exact absurd rfl hblank
    | notBlank => exact absurd rfl hnotBlank
    | inRange =>
      obtain ⟨stop, hstop⟩ := exists_dateOperand (hto rfl)
      rw [hstop]
      rfl
    | _ => rfl

/-- A set filter is well formed or rejected. -/
lemma isWellFormed_or_rejected_of_set (p : ColumnPath) (hkind : f.filterType = "set") :
    f.IsWellFormed p ∨ ∃ fault, f.Rejected p fault := by
  by_cases hjson : p.isJson = true
  · exact .inr ⟨_, .setOnJson hkind hjson⟩
  · have hjson : p.isJson = false := Bool.eq_false_iff.mpr hjson
    by_cases hvalues : ∀ j ∈ f.values, j.IsScalar
    · exact .inl (.set hkind hjson hvalues)
    · push Not at hvalues
      obtain ⟨j, hj, hscalar⟩ := hvalues
      exact .inr ⟨_, .setValue hkind hjson hj hscalar⟩

/-- A comparison of text is well formed or rejected. -/
lemma isWellFormed_or_rejected_of_text {operator : TextOperator} (p : ColumnPath)
    (hkind : f.filterType = "text") (hoperator : f.operator = some operator.tag)
    (hblank : operator ≠ .blank) (hnotBlank : operator ≠ .notBlank) :
    f.IsWellFormed p ∨ ∃ fault, f.Rejected p fault := by
  rcases isGiven_or_refused .filter Json.IsTextOperand (fun _ => .notText) f.filter with
    hfilter | ⟨why, hfilter⟩
  · exact .inl (.text hkind hoperator hfilter)
  · exact .inr ⟨_, .text hkind hoperator hblank hnotBlank hfilter⟩

/-- A comparison of numbers is well formed or rejected; of a range the upper bound comes first. -/
lemma isWellFormed_or_rejected_of_number {operator : NumberOperator} (p : ColumnPath)
    (hkind : f.filterType = "number") (hoperator : f.operator = some operator.tag)
    (hblank : operator ≠ .blank) (hnotBlank : operator ≠ .notBlank) :
    f.IsWellFormed p ∨ ∃ fault, f.Rejected p fault := by
  have hread := fun operand given =>
    isGiven_or_refused operand Json.IsNumberOperand (fun _ => .notNumber operand) given
  by_cases hto : operator = .inRange → IsGiven Json.IsNumberOperand f.filterTo
  · rcases hread .filter f.filter with hfilter | ⟨why, hfilter⟩
    · exact .inl (.number hkind hoperator hfilter hto)
    · exact .inr ⟨_, .number hkind hoperator hblank hnotBlank hto hfilter⟩
  · obtain ⟨rfl, hbad⟩ := Classical.not_imp.mp hto
    obtain ⟨why, hrefused⟩ := (hread .filterTo f.filterTo).resolve_left hbad
    exact .inr ⟨_, .numberTo hkind hoperator hrefused⟩

/-- A comparison of days is well formed or rejected: the end of a range comes before the column, and
the column before the other endpoint. -/
lemma isWellFormed_or_rejected_of_date {operator : DateOperator} (p : ColumnPath)
    (hkind : f.filterType = "date") (hoperator : f.operator = some operator.tag)
    (hblank : operator ≠ .blank) (hnotBlank : operator ≠ .notBlank) :
    f.IsWellFormed p ∨ ∃ fault, f.Rejected p fault := by
  have hread := fun operand given =>
    isGiven_or_refused operand IsDayText (fun raw => .notDate operand raw) given
  by_cases hto : operator = .inRange → IsGiven IsDayText f.dateTo
  · by_cases hdocument : p.isDocument = true
    · exact .inr ⟨_, .dateOnDocument hkind hoperator hblank hnotBlank hto hdocument⟩
    · have hdocument : p.isDocument = false := Bool.eq_false_iff.mpr hdocument
      rcases hread .dateFrom f.dateFrom with hfrom | ⟨why, hfrom⟩
      · exact .inl (.date hkind hoperator hdocument hfrom hto)
      · exact .inr ⟨_, .dateFrom hkind hoperator hblank hnotBlank hto hdocument hfrom⟩
  · obtain ⟨rfl, hbad⟩ := Classical.not_imp.mp hto
    obtain ⟨why, hrefused⟩ := (hread .dateTo f.dateTo).resolve_left hbad
    exact .inr ⟨_, .dateTo hkind hoperator hrefused⟩

/-- **There is nothing in between**: a leaf is well formed or rejected. -/
theorem isWellFormed_or_rejected (p : ColumnPath) (f : LeafFilter) :
    f.IsWellFormed p ∨ ∃ fault, f.Rejected p fault := by
  by_cases hkind : ∃ kind : FilterKind, f.filterType = kind.tag
  swap
  · exact .inr ⟨_, .kind fun kind h => hkind ⟨kind, h⟩⟩
  obtain ⟨kind, hkind⟩ := hkind
  by_cases hset : kind = .set
  · subst hset
    exact isWellFormed_or_rejected_of_set p hkind
  cases hoperator : f.operator with
  | none => exact .inr ⟨_, .missingOperator hkind hset hoperator⟩
  | some tag =>
    by_cases htag : kind.HasOperator tag
    swap
    · exact .inr ⟨_, .operator hkind hset hoperator htag⟩
    by_cases hnull : tag = "blank" ∨ tag = "notBlank"
    · refine .inl (.blank hkind hset ?_)
      rw [hoperator, Option.some.injEq, Option.some.injEq]
      exact hnull
    · have hblank : tag ≠ "blank" := fun h => hnull (.inl h)
      have hnotBlank : tag ≠ "notBlank" := fun h => hnull (.inr h)
      cases kind with
      | set => exact absurd rfl hset
      | text =>
        obtain ⟨operator, rfl⟩ := htag
        exact isWellFormed_or_rejected_of_text p hkind hoperator
          (fun h => hblank (congrArg _ h)) fun h => hnotBlank (congrArg _ h)
      | number =>
        obtain ⟨operator, rfl⟩ := htag
        exact isWellFormed_or_rejected_of_number p hkind hoperator
          (fun h => hblank (congrArg _ h)) fun h => hnotBlank (congrArg _ h)
      | date =>
        obtain ⟨operator, rfl⟩ := htag
        exact isWellFormed_or_rejected_of_date p hkind hoperator
          (fun h => hblank (congrArg _ h)) fun h => hnotBlank (congrArg _ h)

/-- What is rejected does not compile, so it is not well formed. -/
lemma not_isWellFormed_of_rejected {fault : Fault} (h : f.Rejected p fault) :
    ¬ f.IsWellFormed p := by
  intro hform
  have hcompiles : ∃ c, f.compile p "" = .ok c := compile_of_isWellFormed hform
  obtain ⟨c, hc⟩ := hcompiles
  cases hc.symm.trans (compile_of_rejected h)

/-- One fault is said about a leaf. -/
lemma Rejected.unique {a b : Fault} (ha : f.Rejected p a) (hb : f.Rejected p b) : a = b := by
  have hcompile : f.compile p "" = .error a := compile_of_rejected ha
  exact Except.error.inj (hcompile.symm.trans (compile_of_rejected hb))

end LeafFilter

namespace FilterNode

variable {p : ColumnPath} {label : String}

/-! ## Trees -/

/-- A tree is well formed on a path: every group has a junction, and every leaf is well formed. -/
inductive IsWellFormed (p : ColumnPath) : FilterNode → Prop
  | leaf {f : LeafFilter} (h : f.IsWellFormed p) : IsWellFormed p (.leaf f)
  | group {operator : String} {conditions : List FilterNode} (hoperator : IsJunctionTag operator)
    (hconditions : ∀ node ∈ conditions, IsWellFormed p node) :
    IsWellFormed p (.group operator conditions)

mutual

/-- The nodes of a tree from left to right, a group before its conditions. -/
def preorder : FilterNode → List FilterNode
  | .leaf f => [.leaf f]
  | .group operator conditions => .group operator conditions :: preorderAll conditions

/-- The nodes of trees, one tree after the other. -/
def preorderAll : List FilterNode → List FilterNode
  | [] => []
  | node :: rest => preorder node ++ preorderAll rest

end

/-- What is said about a node itself, its conditions left aside. -/
inductive OwnFault (p : ColumnPath) : FilterNode → Fault → Prop
  | group {operator : String} {conditions : List FilterNode} (h : ¬ IsJunctionTag operator) :
    OwnFault p (.group operator conditions) (.unknownTag (.junction operator))
  | leaf {f : LeafFilter} {fault : Fault} (h : f.Rejected p fault) : OwnFault p (.leaf f) fault

/-- Nothing is said about the node itself. -/
def IsClean (p : ColumnPath) (node : FilterNode) : Prop := ∀ fault, ¬ OwnFault p node fault

/-- The fault of the first node that has one. -/
inductive FirstFault (p : ColumnPath) : List FilterNode → Fault → Prop
  | here {node : FilterNode} {rest : List FilterNode} {fault : Fault}
    (h : OwnFault p node fault) : FirstFault p (node :: rest) fault
  | later {node : FilterNode} {rest : List FilterNode} {fault : Fault} (hclean : IsClean p node)
    (h : FirstFault p rest fault) : FirstFault p (node :: rest) fault

/-- A group by itself is clean when its tag is that of a junction. -/
lemma isClean_group_iff {operator : String} {conditions : List FilterNode} :
    IsClean p (.group operator conditions) ↔ IsJunctionTag operator := by
  constructor
  · intro h
    by_contra hoperator
    exact h _ (.group hoperator)
  · rintro hoperator _ ⟨h⟩
    exact h hoperator

/-- A leaf by itself is clean when it is well formed. -/
lemma isClean_leaf_iff {f : LeafFilter} : IsClean p (.leaf f) ↔ f.IsWellFormed p := by
  constructor
  · intro h
    refine (f.isWellFormed_or_rejected p).resolve_right ?_
    rintro ⟨fault, hrejected⟩
    exact h fault (.leaf hrejected)
  · intro hform fault hfault
    cases hfault with
    | leaf h => exact LeafFilter.not_isWellFormed_of_rejected h hform

/-! ### Lists of nodes -/

section

variable {front back : List FilterNode}

/-- In a list either no node has a fault, or there is a first one. -/
lemma clean_or_firstFault (p : ColumnPath) (nodes : List FilterNode) :
    (∀ node ∈ nodes, IsClean p node) ∨ ∃ fault, FirstFault p nodes fault := by
  induction nodes with
  | nil => exact .inl nofun
  | cons node rest ih =>
    by_cases hnode : IsClean p node
    · rcases ih with hrest | ⟨fault, hfault⟩
      · exact .inl (List.forall_mem_cons.mpr ⟨hnode, hrest⟩)
      · exact .inr ⟨fault, .later hnode hfault⟩
    · simp only [IsClean, not_forall, not_not] at hnode
      obtain ⟨fault, hfault⟩ := hnode
      exact .inr ⟨fault, .here hfault⟩

/-- The first fault of two lists is in the second one only if the first one has none. -/
lemma firstFault_append {fault : Fault} : FirstFault p (front ++ back) fault ↔
    FirstFault p front fault ∨ (∀ node ∈ front, IsClean p node) ∧ FirstFault p back fault := by
  induction front with
  | nil =>
    constructor
    · intro h
      exact .inr ⟨nofun, h⟩
    · rintro (h | ⟨-, h⟩)
      · cases h
      · exact h
  | cons node rest ih =>
    rw [List.forall_mem_cons]
    constructor
    · intro h
      cases h with
      | here h => exact .inl (.here h)
      | later hnode h =>
        rcases ih.mp h with hrest | ⟨hrest, hback⟩
        · exact .inl (.later hnode hrest)
        · exact .inr ⟨⟨hnode, hrest⟩, hback⟩
    · rintro (h | ⟨⟨hnode, hrest⟩, hback⟩)
      · cases h with
        | here h => exact .here h
        | later hnode h => exact .later hnode (ih.mpr (.inl h))
      · exact .later hnode (ih.mpr (.inr ⟨hrest, hback⟩))

end

/-! ### Verdicts -/

mutual

/-- A tree is well formed when nothing is said about any of its nodes. -/
lemma isWellFormed_iff_clean : ∀ node : FilterNode,
    node.IsWellFormed p ↔ ∀ m ∈ node.preorder, IsClean p m
  | .leaf f => by
    rw [preorder, List.forall_mem_singleton, isClean_leaf_iff]
    constructor
    · rintro ⟨h⟩
      exact h
    · exact .leaf
  | .group operator conditions => by
    rw [preorder, List.forall_mem_cons, isClean_group_iff, ← areWellFormed_iff_clean conditions]
    constructor
    · intro h
      cases h with
      | group hoperator hconditions => exact ⟨hoperator, hconditions⟩
    · rintro ⟨hoperator, hconditions⟩
      exact .group hoperator hconditions

/-- Trees are well formed when every node in them is clean by itself. -/
lemma areWellFormed_iff_clean : ∀ nodes : List FilterNode,
    (∀ node ∈ nodes, node.IsWellFormed p) ↔ ∀ m ∈ preorderAll nodes, IsClean p m
  | [] => iff_of_true nofun nofun
  | node :: rest => by
    rw [preorderAll, List.forall_mem_append, List.forall_mem_cons, isWellFormed_iff_clean node,
      areWellFormed_iff_clean rest]

end

mutual

/-- A tree compiles when nothing is said about any of its nodes. -/
lemma exists_compile_of_clean : ∀ node : FilterNode, (∀ m ∈ node.preorder, IsClean p m) →
    ∃ c, node.compile p label = .ok c
  | .leaf f => by
    intro h
    rw [preorder, List.forall_mem_singleton, isClean_leaf_iff] at h
    exact LeafFilter.compile_of_isWellFormed h
  | .group operator conditions => by
    intro h
    rw [preorder, List.forall_mem_cons, isClean_group_iff] at h
    obtain ⟨hoperator, hconditions⟩ := h
    obtain ⟨junction, hjunction⟩ := exists_junction_iff.mpr hoperator
    rw [compile, hjunction]
    exact exists_compileInto_of_clean conditions _ hconditions

/-- Clean trees can be put into any condition. -/
lemma exists_compileInto_of_clean : ∀ (nodes : List FilterNode) (joined : Condition),
    (∀ m ∈ preorderAll nodes, IsClean p m) → ∃ c, compileInto p label joined nodes = .ok c
  | [], joined => fun _ => ⟨joined, rfl⟩
  | node :: rest, joined => by
    intro h
    rw [preorderAll, List.forall_mem_append] at h
    obtain ⟨hnode, hrest⟩ := h
    obtain ⟨c, hc⟩ := exists_compile_of_clean node hnode
    simp only [compileInto, hc]
    exact exists_compileInto_of_clean rest _ hrest

end

mutual

/-- A tree is refused with the fault of its first node that has one. -/
lemma compile_of_firstFault : ∀ (node : FilterNode) {fault : Fault},
    FirstFault p node.preorder fault → node.compile p label = .error fault
  | .leaf f, fault => by
    intro h
    rw [preorder] at h
    cases h with
    | here h =>
      cases h with
      | leaf h => exact LeafFilter.compile_of_rejected h
    | later _ h => cases h
  | .group operator conditions, fault => by
    intro h
    rw [preorder] at h
    cases h with
    | here h =>
      cases h with
      | group hoperator => rw [compile, ofTag_eq_error_of_not_isJunctionTag hoperator]
    | later hclean h =>
      obtain ⟨junction, hjunction⟩ := exists_junction_iff.mpr (isClean_group_iff.mp hclean)
      rw [compile, hjunction]
      exact compileInto_of_firstFault conditions _ h

/-- Trees that are put into a condition stop at the first fault among their nodes. -/
lemma compileInto_of_firstFault : ∀ (nodes : List FilterNode) (joined : Condition) {fault : Fault},
    FirstFault p (preorderAll nodes) fault → compileInto p label joined nodes = .error fault
  | [], joined, fault => nofun
  | node :: rest, joined, fault => by
    intro h
    rw [preorderAll] at h
    rcases firstFault_append.mp h with hnode | ⟨hclean, hrest⟩
    · simp only [compileInto, compile_of_firstFault node hnode]
    · have hcompiles : ∃ c, node.compile p label = .ok c := exists_compile_of_clean node hclean
      obtain ⟨c, hc⟩ := hcompiles
      simp only [compileInto, hc]
      exact compileInto_of_firstFault rest _ hrest

end

/-! ### Classes of faults -/

/-- The tag of a node is bad: a group without a junction, or a leaf without a kind or without an
operator of its kind. -/
inductive HasBadTag : FilterNode → Prop
  | junction {operator : String} {conditions : List FilterNode} (h : ¬ IsJunctionTag operator) :
    HasBadTag (.group operator conditions)
  | kind {f : LeafFilter} (hkind : ∀ kind : FilterKind, f.filterType ≠ kind.tag) :
    HasBadTag (.leaf f)
  | missingOperator {f : LeafFilter} {kind : FilterKind} (hkind : f.filterType = kind.tag)
    (hset : kind ≠ .set) (hoperator : f.operator = none) : HasBadTag (.leaf f)
  | operator {f : LeafFilter} {kind : FilterKind} {tag : String} (hkind : f.filterType = kind.tag)
    (hset : kind ≠ .set) (hoperator : f.operator = some tag) (htag : ¬ kind.HasOperator tag) :
    HasBadTag (.leaf f)

/-- The column of a path does not bear a leaf: a set filter on JSON, or a comparison of days on a
whole document. Of a range of days the end must be there, since it is read before. -/
inductive IsUnsupported (p : ColumnPath) : FilterNode → Prop
  | set {f : LeafFilter} (hkind : f.filterType = "set") (hjson : p.isJson = true) :
    IsUnsupported p (.leaf f)
  | date {f : LeafFilter} {operator : DateOperator} (hkind : f.filterType = "date")
    (hoperator : f.operator = some operator.tag) (hblank : operator ≠ .blank)
    (hnotBlank : operator ≠ .notBlank) (hto : operator = .inRange → IsGiven IsDayText f.dateTo)
    (hdocument : p.isDocument = true) : IsUnsupported p (.leaf f)

/-- A node has at most one fault of its own. -/
lemma OwnFault.unique {node : FilterNode} {a b : Fault} (ha : OwnFault p node a)
    (hb : OwnFault p node b) : a = b := by
  cases ha with
  | group =>
    cases hb with
    | group => rfl
  | leaf ha =>
    cases hb with
    | leaf hb => exact ha.unique hb

/-- A node with a bad tag has a fault of its own, which names a tag. -/
lemma HasBadTag.exists_ownFault {node : FilterNode} (h : node.HasBadTag) (p : ColumnPath) :
    ∃ why, OwnFault p node (.unknownTag why) := by
  cases h with
  | junction h => exact ⟨_, .group h⟩
  | kind hkind => exact ⟨_, .leaf (.kind hkind)⟩
  | missingOperator hkind hset hoperator => exact ⟨_, .leaf (.missingOperator hkind hset hoperator)⟩
  | operator hkind hset hoperator htag => exact ⟨_, .leaf (.operator hkind hset hoperator htag)⟩

/-- A node that the column does not support has a fault of its own, which says so. -/
lemma IsUnsupported.exists_ownFault {node : FilterNode} (h : node.IsUnsupported p) :
    ∃ why, OwnFault p node (.unsupported p.id why) := by
  cases h with
  | set hkind hjson => exact ⟨_, .leaf (.setOnJson hkind hjson)⟩
  | date hkind hoperator hblank hnotBlank hto hdocument =>
    exact ⟨_, .leaf (.dateOnDocument hkind hoperator hblank hnotBlank hto hdocument)⟩

/-- What is said about a node is said about its tag, or about the column of a filter that it does
not bear, or about an operand. -/
lemma OwnFault.sort {node : FilterNode} {fault : Fault} (h : OwnFault p node fault) :
    (node.HasBadTag ∧ ∃ why, fault = .unknownTag why) ∨
      (node.IsUnsupported p ∧ ∃ why, fault = .unsupported p.id why) ∨
      ∃ why, fault = .invalidValue p.id why := by
  cases h with
  | group hoperator => exact .inl ⟨.junction hoperator, _, rfl⟩
  | leaf h =>
    cases h with
    | kind hkind => exact .inl ⟨.kind hkind, _, rfl⟩
    | missingOperator hkind hset hoperator =>
      exact .inl ⟨.missingOperator hkind hset hoperator, _, rfl⟩
    | operator hkind hset hoperator htag =>
      exact .inl ⟨.operator hkind hset hoperator htag, _, rfl⟩
    | setOnJson hkind hjson => exact .inr (.inl ⟨.set hkind hjson, _, rfl⟩)
    | dateOnDocument hkind hoperator hblank hnotBlank hto hdocument =>
      exact .inr (.inl ⟨.date hkind hoperator hblank hnotBlank hto hdocument, _, rfl⟩)
    | _ => exact .inr (.inr ⟨_, rfl⟩)

/-- What is said about a node is said about its tag exactly when that is bad, about its column
exactly when this does not bear the leaf, and about an operand otherwise. -/
lemma OwnFault.sort_iff {node : FilterNode} {fault : Fault} (h : OwnFault p node fault) :
    ((∃ why, fault = .unknownTag why) ↔ node.HasBadTag) ∧
      ((∃ why, fault = .unsupported p.id why) ↔ node.IsUnsupported p) ∧
      ((∃ why, fault = .invalidValue p.id why) ↔ ¬ node.HasBadTag ∧ ¬ node.IsUnsupported p) := by
  have htag : node.HasBadTag → ∃ why, fault = .unknownTag why := by
    intro hbad
    obtain ⟨why, hwhy⟩ := hbad.exists_ownFault p
    exact ⟨why, h.unique hwhy⟩
  have hcolumn : node.IsUnsupported p → ∃ why, fault = .unsupported p.id why := by
    intro hunsupported
    obtain ⟨why, hwhy⟩ := hunsupported.exists_ownFault
    exact ⟨why, h.unique hwhy⟩
  have hsort := h.sort
  refine ⟨⟨?_, htag⟩, ⟨?_, hcolumn⟩, ?_, ?_⟩
  · rintro ⟨why, rfl⟩
    rcases hsort with ⟨hbad, -⟩ | ⟨-, _, hother⟩ | ⟨_, hother⟩
    · exact hbad
    · cases hother
    · cases hother
  · rintro ⟨why, rfl⟩
    rcases hsort with ⟨-, _, hother⟩ | ⟨hunsupported, -⟩ | ⟨_, hother⟩
    · cases hother
    · exact hunsupported
    · cases hother
  · rintro ⟨why, rfl⟩
    constructor
    · intro hbad
      obtain ⟨_, hother⟩ := htag hbad
      cases hother
    · intro hunsupported
      obtain ⟨_, hother⟩ := hcolumn hunsupported
      cases hother
  · rintro ⟨hbad, hunsupported⟩
    rcases hsort with ⟨h, -⟩ | ⟨h, -⟩ | hoperand
    · exact absurd h hbad
    · exact absurd h hunsupported
    · exact hoperand

/-! ### Entries -/

/-- A filter on the subject is there when its tree compiles, and fails with the same fault. -/
lemma entry_eq_ok_iff {node : FilterNode} {base : String} :
    (∃ c, node.entry p base = .ok c) ↔ ∃ c, node.compile p (p.leafLabel base) = .ok c := by
  rw [entry]
  cases node.compile p (p.leafLabel base) with
  | ok c => exact iff_of_true ⟨_, rfl⟩ ⟨c, rfl⟩
  | error fault => exact iff_of_false nofun nofun

/-- An entry fails just as its tree does. -/
lemma entry_eq_error_iff {node : FilterNode} {base : String} {fault : Fault} :
    node.entry p base = .error fault ↔ node.compile p (p.leafLabel base) = .error fault := by
  rw [entry]
  cases node.compile p (p.leafLabel base) with
  | ok c => exact iff_of_false nofun nofun
  | error other => exact ⟨id, id⟩

/-- **The grammar of filters**: a tree compiles exactly when it is well formed on the path, whatever
the alias of the subject. Any other tree is refused with the fault of its first node that has one,
a group before its conditions. The fault is about a tag exactly when the node has a bad one, about
the column exactly when this does not bear the leaf, and about an operand of the leaf otherwise.

**Proof sketch.** Each leaf is well formed or rejected (`LeafFilter.isWellFormed_or_rejected`), and
compiles or fails accordingly. Junctions are read before the conditions of their groups, and these
from left to right until one fails, which is the order of `preorder`. -/
theorem entry_follows_grammar (p : ColumnPath) (base : String) (node : FilterNode) :
    ((∃ c, node.entry p base = .ok c) ↔ node.IsWellFormed p) ∧
      (∀ fault, node.entry p base = .error fault ↔ FirstFault p node.preorder fault) ∧
      ∀ (m : FilterNode) (fault : Fault), OwnFault p m fault →
        ((∃ why, fault = .unknownTag why) ↔ m.HasBadTag) ∧
        ((∃ why, fault = .unsupported p.id why) ↔ m.IsUnsupported p) ∧
        ((∃ why, fault = .invalidValue p.id why) ↔ ¬ m.HasBadTag ∧ ¬ m.IsUnsupported p) := by
  have hcompiles : (∃ c, node.compile p (p.leafLabel base) = .ok c) ↔
      ∀ m ∈ node.preorder, IsClean p m := by
    constructor
    · rintro ⟨c, hc⟩
      rcases clean_or_firstFault p node.preorder with hclean | ⟨fault, hfault⟩
      · exact hclean
      · cases hc.symm.trans (compile_of_firstFault node hfault)
    · exact exists_compile_of_clean node
  have hfails : ∀ fault, node.compile p (p.leafLabel base) = .error fault ↔
      FirstFault p node.preorder fault := by
    intro fault
    constructor
    · intro h
      rcases clean_or_firstFault p node.preorder with hclean | ⟨first, hfirst⟩
      · obtain ⟨c, hc⟩ := hcompiles.mpr hclean
        cases h.symm.trans hc
      · have hsame : fault = first :=
          Except.error.inj (h.symm.trans (compile_of_firstFault node hfirst))
        rw [hsame]
        exact hfirst
    · exact compile_of_firstFault node
  refine ⟨?_, fun fault => ?_, fun m fault h => h.sort_iff⟩
  · rw [entry_eq_ok_iff, hcompiles, isWellFormed_iff_clean]
  · rw [entry_eq_error_iff, hfails]

end FilterNode

/-- A comparison of text with nothing. -/
def Zoo.unfinished : LeafFilter := { filterType := "text", operator := some "equals" }

/-- Filters of a group, the second one unfinished and the third one without a junction. -/
def Zoo.flawed : FilterNode :=
  .group "Or" [.leaf { filterType := "text", operator := some "blank" }, .leaf Zoo.unfinished,
    .group "xor" []]

namespace FilterNode

/-- The filters of a group on the name of a flamingo: what is said is said about the unfinished one,
which has a tag that is right; nobody gets to the tag that is not. -/
theorem entry_follows_grammar_names :
    ∃ registry p, Zoo.registry = .ok registry ∧ registry.resolve Zoo.flamingos "name" = .ok p ∧
      ¬ Zoo.flawed.IsWellFormed p ∧
      FirstFault p Zoo.flawed.preorder (.invalidValue p.id (.missing .filter)) ∧
      OwnFault p (leaf Zoo.unfinished) (.invalidValue p.id (.missing .filter)) ∧
      ¬ (leaf Zoo.unfinished).HasBadTag := by
  have hspec : ∀ p, Zoo.flawed.entry p "flamingos" =
      .error (.invalidValue p.id (.missing .filter)) →
        ¬ Zoo.flawed.IsWellFormed p ∧
        FirstFault p Zoo.flawed.preorder (.invalidValue p.id (.missing .filter)) ∧
        OwnFault p (leaf Zoo.unfinished) (.invalidValue p.id (.missing .filter)) ∧
        ¬ (leaf Zoo.unfinished).HasBadTag := by
    intro p hentry
    obtain ⟨hforms, hfaults, hclasses⟩ := entry_follows_grammar p "flamingos" Zoo.flawed
    have hoperator : Zoo.unfinished.operator = some TextOperator.equals.tag := rfl
    have hown : OwnFault p (leaf Zoo.unfinished) (.invalidValue p.id (.missing .filter)) :=
      .leaf (.text rfl hoperator nofun nofun .missing)
    obtain ⟨-, -, hoperand⟩ := hclasses _ _ hown
    refine ⟨?_, (hfaults _).mp hentry, hown, (hoperand.mp ⟨_, rfl⟩).1⟩
    intro hform
    obtain ⟨c, hc⟩ := hforms.mpr hform
    cases hc.symm.trans hentry
  exact ⟨_, _, rfl, rfl, hspec _ rfl⟩

/-- A range of days on a whole document without an end: it is refused for the end that is missing,
not for the document. -/
theorem document_range_reads_end_first : ∃ registry p, Zoo.registry = .ok registry ∧
    registry.resolve Zoo.flamingos "custom_properties" = .ok p ∧ p.isDocument = true ∧
    (leaf { filterType := "date", operator := some "inRange" }).entry p "flamingos" =
      .error (.invalidValue "custom_properties" (.missing .dateTo)) :=
  ⟨_, _, rfl, rfl, rfl, rfl⟩

end FilterNode

end DataGrid
