import DataGrid.Proofs.Outcome
import DataGrid.Proofs.Request.Nodes

/-!
# Requests there and back

A request that was read is read again from what it is written as, whatever its filter trees are and
however the members of objects are ordered on the way. Reading puts the values that are carried along
into canonical form, column ids in ascending order, and leaves no field with the value null; of such
requests, writing is undone by reading. A written leaf is never taken for a group, because it has no
operator under the name that groups have theirs, and a written group is never taken for a leaf,
because all of its conditions are readable.

## Main definitions

* `DataGrid.LeafFilter.IsCanonical`, `DataGrid.FilterNode.IsCanonical`, `DataGrid.Request.IsCanonical`
  — what is known of all that was read.

## Main results

* `DataGrid.Request.isCanonical_of_ofJson?` — requests that were read are canonical.
* `DataGrid.FilterNode.ofJson?_rewrite_toJson`, `DataGrid.Request.ofJson?_rewrite_toJson` — canonical
  nodes and requests are read back from what they are written as.
* `DataGrid.Request.read_back` — so is everything that was read once.
-/

namespace DataGrid

open Json (fields? required optional orNull orAbsent listOf? tagged? given IsReordering)

variable {rewrite : Json → Json}

/-! ## Lists of values -/

/-- The elements of a list of values are read one by one. -/
lemma listOf?_array {α : Type} {read : Json → Option α} {write : α → Json} {values : List α}
    (h : ∀ a ∈ values, read (write a) = some a) :
    listOf? read (.array (values.map write)) = some values := by
  rw [listOf?]
  induction values with
  | nil => rfl
  | cons a rest ih =>
    rw [List.forall_mem_cons] at h
    rw [List.map_cons, List.mapM_cons, h.1, ih h.2]
    rfl

/-- Values that are taken as they are come out in canonical form. -/
lemma canonical_of_listOf? {j : Json} {values : List Json} (h : listOf? plainValue? j = some values) :
    ∀ value ∈ values, value.canonical = value := by
  cases j with
  | array items =>
    intro value hvalue
    obtain ⟨item, -, hread⟩ := exists_of_mem_forall₂ (forall₂_of_mapM h) hvalue
    rw [← Option.some.inj hread]
    exact item.canonical_canonical
  | _ => cases h

/-! ## Fields as they were written -/

namespace Json.IsReordering

variable {name : String} {found : List (String × Json)}

/-- An optional text. -/
lemma optional_string (h : IsReordering rewrite) {o : Option String}
    (ho : Keyed.find? name found = (o.map .string).map rewrite) :
    optional Json.string? name found = some o := by
  refine Json.optional_map_eq ho ?_
  intro s _
  rw [h.string]
  exact ⟨nofun, rfl⟩

/-- An optional word of a list of words. -/
lemma optional_tag (h : IsReordering rewrite) {α : Type} {table : List (String × α)}
    {tag : α → String} (htable : Keyed.IsTagTable table tag) {o : Option α}
    (ho : Keyed.find? name found = (o.map fun a => .string (tag a)).map rewrite) :
    optional (tagged? fun tag => Keyed.find? tag table) name found = some o := by
  refine Json.optional_map_eq ho ?_
  intro a _
  rw [h.string]
  exact ⟨nofun, htable.find?_tag a⟩

/-- An optional list of texts. -/
lemma optional_strings (h : IsReordering rewrite) {o : Option (List String)}
    (ho : Keyed.find? name found = (o.map fun texts => .array (texts.map .string)).map rewrite) :
    optional (listOf? Json.string?) name found = some o := by
  refine Json.optional_map_eq ho ?_
  intro texts _
  rw [h.array, List.map_map]
  refine ⟨nofun, listOf?_array ?_⟩
  intro text _
  rw [Function.comp, h.string]
  rfl

/-- A value that is taken as it is. -/
lemma plainValue?_rewrite (h : IsReordering rewrite) {j : Json} (hj : j.canonical = j) :
    plainValue? (rewrite j) = some j := congrArg some (h.canonical j hj)

/-- An optional value that is taken as it is. -/
lemma optional_plain (h : IsReordering rewrite) {o : Option Json}
    (hcanonical : ∀ j, o = some j → j ≠ .null ∧ j.canonical = j)
    (ho : Keyed.find? name found = o.map rewrite) : optional plainValue? name found = some o := by
  refine Json.optional_eq ho ?_
  intro j hj
  obtain ⟨hnull, hsame⟩ := hcanonical j hj
  exact ⟨h.ne_null hsame hnull, h.plainValue?_rewrite hsame⟩

/-- A flag. -/
lemma orNull_bool (h : IsReordering rewrite) {b : Bool}
    (hb : Keyed.find? name found = some (rewrite (.bool b))) :
    orNull false Json.bool? name found = some b := by
  rw [h.bool] at hb
  exact Json.orNull_eq hb nofun

/-- A list of values. -/
lemma orNull_list (h : IsReordering rewrite) {α : Type} {read : Json → Option α} {write : α → Json}
    {values : List α} (hread : ∀ a ∈ values, read (rewrite (write a)) = some a)
    (hvalues : Keyed.find? name found = some (rewrite (.array (values.map write)))) :
    orNull [] (listOf? read) name found = some values := by
  rw [h.array, List.map_map] at hvalues
  rw [Json.orNull_eq hvalues nofun]
  exact listOf?_array hread

/-- A list of values that are taken as they are. -/
lemma orNull_plain (h : IsReordering rewrite) {values : List Json}
    (hcanonical : ∀ j ∈ values, j.canonical = j)
    (hvalues : Keyed.find? name found = some (rewrite (.array values))) :
    orNull [] (listOf? plainValue?) name found = some values := by
  rw [← List.map_id values] at hvalues
  refine h.orNull_list ?_ hvalues
  intro j hj
  exact h.plainValue?_rewrite (hcanonical j hj)

end Json.IsReordering

/-! ## Leaves -/

namespace LeafFilter

/-- The values that a leaf carries are in canonical form, and no operand is null. -/
structure IsCanonical (f : LeafFilter) : Prop where
  filter : ∀ j, f.filter = some j → j ≠ .null ∧ j.canonical = j
  filterTo : ∀ j, f.filterTo = some j → j ≠ .null ∧ j.canonical = j
  values : ∀ j ∈ f.values, j.canonical = j

variable {f : LeafFilter}

/-- An operand that was read is canonical and not null. -/
lemma canonical_of_optional {name : String} {fields : List (String × Json)} {o : Option Json}
    (h : optional plainValue? name fields = some o) :
    ∀ j, o = some j → j ≠ .null ∧ j.canonical = j := by
  intro j hj
  obtain ⟨source, -, hnull, hsource⟩ := Json.exists_of_optional_eq_some h hj
  have hcanonical : source.canonical = j := Option.some.inj hsource
  subst hcanonical
  refine ⟨?_, source.canonical_canonical⟩
  intro hsame
  exact hnull (Json.canonical_eq_null.mp hsame)

/-- A leaf that was read is canonical. -/
lemma isCanonical_of_ofJson? {j : Json} (h : ofJson? j = some f) : f.IsCanonical := by
  obtain ⟨fields, -, -, -, hfilter, hfilterTo, hvalues⟩ := exists_fields_of_ofJson? h
  refine ⟨canonical_of_optional hfilter, canonical_of_optional hfilterTo, ?_⟩
  rcases Json.eq_or_exists_of_orNull_eq_some hvalues with hnone | ⟨source, hsource⟩
  · rw [hnone]
    exact List.forall_mem_nil _
  · exact canonical_of_listOf? hsource

/-- The fields of a leaf as they are written. -/
def written (f : LeafFilter) : List (String × Option Json) :=
  [("filterType", some (.string f.filterType)), ("type", f.operator.map .string),
    ("filter", f.filter), ("filterTo", f.filterTo), ("dateFrom", f.dateFrom.map .string),
    ("dateTo", f.dateTo.map .string), ("values", some (.array f.values)),
    ("all", some (.bool f.all))]

/-- A leaf is written field by field. -/
lemma toJson_eq (f : LeafFilter) : f.toJson = .object (given f.written) := by
  simp only [toJson, written, Json.present_eq_given, Json.given_cons_cons, Json.given_some,
    Option.map_id_fun, id_eq, List.cons_append, List.nil_append, List.append_assoc]

/-- No field of a leaf is written twice. -/
lemma nodup_written (f : LeafFilter) : (Keyed.keys f.written).Nodup := by
  show fieldNames.Nodup
  decide

/-- **A canonical leaf is read back** from what it is written as.

**Proof sketch.** A leaf is written field by field, and each field is read as it was written. -/
theorem ofJson?_rewrite_toJson (h : IsReordering rewrite) (hf : f.IsCanonical) :
    ofJson? (rewrite f.toJson) = some f := by
  obtain ⟨found, hfound, hfind⟩ := h.exists_fields?_given f.nodup_written fieldNames
  have hkind : required Json.string? "filterType" found = some f.filterType := by
    rw [Json.required_eq (hfind "filterType" (by decide)), h.string]
    rfl
  have hoperator := h.optional_string (hfind "type" (by decide))
  have hfilter := h.optional_plain hf.filter (hfind "filter" (by decide))
  have hfilterTo := h.optional_plain hf.filterTo (hfind "filterTo" (by decide))
  have hdateFrom := h.optional_string (hfind "dateFrom" (by decide))
  have hdateTo := h.optional_string (hfind "dateTo" (by decide))
  have hvalues := h.orNull_plain hf.values (hfind "values" (by decide))
  have hall := h.orNull_bool (hfind "all" (by decide))
  rw [toJson_eq, ofJson?, hfound]
  simp only [Option.bind_eq_bind, Option.bind_some, hkind, hoperator, hfilter, hfilterTo, hdateFrom,
    hdateTo, hvalues, hall]
  rfl

end LeafFilter

/-! ## Trees -/

namespace FilterNode

/-- All leaves of a tree are canonical. -/
inductive IsCanonical : FilterNode → Prop
  | leaf {f : LeafFilter} : f.IsCanonical → IsCanonical (.leaf f)
  | group {operator : String} {conditions : List FilterNode} :
    (∀ node ∈ conditions, IsCanonical node) → IsCanonical (.group operator conditions)

/-- **A tree that was read is canonical.**

**Proof sketch.** Induction on the size of the value. The conditions of a group are smaller than the
group (`sizeOf_lt_of_items?`). -/
theorem isCanonical_of_ofJson? (j : Json) {node : FilterNode} (h : ofJson? j = some node) :
    node.IsCanonical := by
  rcases cases_of_ofJson? h with
    ⟨operator, items, conditions, -, hitems, hconditions, rfl⟩ | ⟨f, hf, rfl⟩
  · refine .group ?_
    intro condition hcondition
    obtain ⟨item, hitem, hread⟩ := (exists_of_ofItems? hconditions).1 condition hcondition
    have hsmaller := sizeOf_lt_of_items? hitems hitem
    exact isCanonical_of_ofJson? item hread
  · exact .leaf (LeafFilter.isCanonical_of_ofJson? hf)
termination_by sizeOf j

/-- The conditions of a group are written one by one. -/
lemma toItems_eq_map (conditions : List FilterNode) :
    toItems conditions = conditions.map toJson := by
  induction conditions with
  | nil => rfl
  | cons node rest ih => rw [toItems, ih, List.map_cons]

/-- Nothing but a group has an operator under the name that groups have theirs. -/
lemma groupOperator?_rewrite_leaf (h : IsReordering rewrite) (f : LeafFilter) :
    groupOperator? (rewrite f.toJson) = none := by
  obtain ⟨found, hfound, hfind⟩ := h.exists_fields?_given f.nodup_written groupFieldNames
  have hnone : Keyed.find? "operator" found = none := hfind "operator" (by decide)
  rw [f.toJson_eq, groupOperator?, hfound, Option.bind_some, required, hnone]
  rfl

/-- The operator and the conditions of a written group are found again. -/
lemma groupOperator?_rewrite_group (h : IsReordering rewrite) (operator : String)
    (conditions : List FilterNode) :
    groupOperator? (rewrite (group operator conditions).toJson) = some operator ∧
      items? (rewrite (group operator conditions).toJson) =
        some (conditions.map fun node => rewrite node.toJson) := by
  have hkeys : (Keyed.keys [("operator", Json.string operator),
      ("conditions", Json.array (toItems conditions))]).Nodup := by
    show groupFieldNames.Nodup
    decide
  obtain ⟨members, hmembers, hnodup, hfind⟩ := h.object _ hkeys
  have hfindOperator : Keyed.find? "operator" members = some (.string operator) := by
    rw [hfind]
    exact congrArg some (h.string operator)
  have hfindConditions : Keyed.find? "conditions" members =
      some (.array (conditions.map fun node => rewrite node.toJson)) := by
    rw [hfind]
    show some (rewrite (.array (toItems conditions))) = _
    rw [h.array, toItems_eq_map, List.map_map]
    rfl
  rw [toJson, hmembers]
  constructor
  · obtain ⟨found, hfound, hread⟩ := Json.exists_fields?_eq hnodup groupFieldNames
    rw [groupOperator?, hfound, Option.bind_some]
    exact Json.required_eq ((hread "operator" (by decide)).trans hfindOperator)
  · exact itemsOf?_of_find? hfindConditions

mutual

/-- **A canonical tree is read back** from what it is written as, groups as groups and leaves as
leaves.

**Proof sketch.** Induction over the tree. A written leaf has no operator under the name that groups
have theirs, so it is read as a leaf. A written group offers its conditions, all of which are
readable by induction, so it is read as a group. -/
theorem ofJson?_rewrite_toJson (h : IsReordering rewrite) : ∀ node : FilterNode,
    node.IsCanonical → ofJson? (rewrite node.toJson) = some node
  | .leaf f, hnode => by
    cases hnode with
    | leaf hf =>
      rw [ofJson?_eq, toJson, groupOperator?_rewrite_leaf h f]
      dsimp only
      rw [f.ofJson?_rewrite_toJson h hf, Option.map_some]
  | .group operator conditions, hnode => by
    cases hnode with
    | group hconditions =>
      obtain ⟨hoperator, hitems⟩ := groupOperator?_rewrite_group h operator conditions
      have hread := ofItems?_rewrite_toJson h conditions hconditions
      rw [ofJson?_eq, hoperator, hitems, Option.bind_some, hread]

/-- Canonical conditions are read back from what they are written as. -/
theorem ofItems?_rewrite_toJson (h : IsReordering rewrite) : ∀ conditions : List FilterNode,
    (∀ node ∈ conditions, node.IsCanonical) →
      ofItems? (conditions.map fun node => rewrite node.toJson) = some conditions
  | [], _ => rfl
  | node :: rest, hall => by
    rw [List.forall_mem_cons] at hall
    rw [List.map_cons, ofItems?, ofJson?_rewrite_toJson h node hall.1,
      ofItems?_rewrite_toJson h rest hall.2]

end

end FilterNode

/-! ## Other parts -/

/-- The spellings of the directions are those by which they are read. -/
lemma Sql.Direction.isTagTable : Keyed.IsTagTable tags tag :=
  ⟨fun d => by cases d <;> rfl, by decide⟩

/-- The spellings of the row models are those by which they are read. -/
lemma RowModel.isTagTable : Keyed.IsTagTable tags tag :=
  ⟨fun m => by cases m <;> rfl, by decide⟩

/-- The spellings of the export formats are those by which they are read. -/
lemma ExportFormat.isTagTable : Keyed.IsTagTable tags tag :=
  ⟨fun f => by cases f <;> rfl, by decide⟩

/-- A sort entry is read back from what it is written as. -/
lemma SortEntry.ofJson?_rewrite_toJson (h : IsReordering rewrite) (e : SortEntry) :
    ofJson? (rewrite e.toJson) = some e := by
  have hkeys : (Keyed.keys [("colId", some (Json.string e.column)),
      ("sort", some (Json.string e.direction.tag))]).Nodup := by
    show fieldNames.Nodup
    decide
  obtain ⟨found, hfound, hfind⟩ := h.exists_fields?_given hkeys fieldNames
  have hcolumn : required Json.string? "colId" found = some e.column := by
    rw [Json.required_eq (hfind "colId" (by decide)), h.string]
    rfl
  have hsort : orAbsent .asc (tagged? Sql.Direction.ofTag?) "sort" found = some e.direction := by
    rw [Json.orAbsent_eq (hfind "sort" (by decide)), h.string]
    exact Sql.Direction.isTagTable.find?_tag e.direction
  have hwritten : e.toJson = .object (given [("colId", some (Json.string e.column)),
      ("sort", some (Json.string e.direction.tag))]) := rfl
  rw [hwritten, ofJson?, hfound]
  simp only [Option.bind_eq_bind, Option.bind_some, hcolumn, hsort]
  rfl

/-! ## Requests -/

namespace Request

/-- What is known of all requests that were read: column ids ascend, and the values that are carried
along are in canonical form. -/
structure IsCanonical (r : Request) : Prop where
  ascending : Keyed.Ascending r.filters
  filters : ∀ entry ∈ r.filters, entry.2.IsCanonical
  toggled : ∀ j ∈ r.toggled, j.canonical = j
  customFilters : (Json.object r.customFilters).canonical = .object r.customFilters

variable {r : Request}

/-- Filters that were read are canonical, with ascending column ids. -/
lemma canonical_of_filtersOfJson? {j : Json} {filters : List (String × FilterNode)}
    (h : filtersOfJson? j = some filters) :
    Keyed.Ascending filters ∧ ∀ entry ∈ filters, entry.2.IsCanonical := by
  cases j with
  | object members =>
    obtain ⟨nodes, hnodes, hfilters⟩ := Option.map_eq_some_iff.mp h
    subst hfilters
    refine ⟨Keyed.ascending_ofList nodes, ?_⟩
    intro entry hentry
    obtain ⟨m, -, hread⟩ := exists_of_mem_forall₂ (forall₂_of_mapM hnodes)
      (Keyed.mem_of_mem_ofList hentry)
    obtain ⟨node, hnode, hsame⟩ := Option.map_eq_some_iff.mp hread
    subst hsame
    exact FilterNode.isCanonical_of_ofJson? m.2 hnode
  | _ => cases h

/-- Values for the custom filter that were read are canonical. -/
lemma canonical_of_customFiltersOfJson? {j : Json} {given : List (String × Json)}
    (h : customFiltersOfJson? j = some given) : (Json.object given).canonical = .object given := by
  have hobject : j.canonical = .object given := by
    unfold customFiltersOfJson? Json.object? at h
    split at h
    · next members hmembers => rw [hmembers, Option.some.inj h]
    · cases h
  rw [← hobject]
  exact j.canonical_canonical

/-- **A request that was read is canonical.** -/
theorem isCanonical_of_ofJson? {j : Json} (h : ofJson? j = some r) : r.IsCanonical := by
  obtain ⟨fields, -, hfilters, htoggled, hcustom⟩ := exists_fields_of_ofJson? h
  have hcanonical : Keyed.Ascending r.filters ∧ ∀ entry ∈ r.filters, entry.2.IsCanonical := by
    rcases Json.eq_or_exists_of_orNull_eq_some hfilters with hnone | ⟨source, hsource⟩
    · rw [hnone]
      exact ⟨List.Pairwise.nil, List.forall_mem_nil _⟩
    · exact canonical_of_filtersOfJson? hsource
  refine ⟨hcanonical.1, hcanonical.2, ?_, ?_⟩
  · rcases Json.eq_or_exists_of_orNull_eq_some htoggled with hnone | ⟨source, hsource⟩
    · rw [hnone]
      exact List.forall_mem_nil _
    · exact canonical_of_listOf? hsource
  · rcases Json.eq_or_exists_of_orNull_eq_some hcustom with hnone | ⟨source, hsource⟩
    · rw [hnone]
      rfl
    · exact canonical_of_customFiltersOfJson? hsource

/-- The fields of a request as they are written. -/
def written (r : Request) : List (String × Option Json) :=
  [("filterModel", some (.object (r.filters.map fun f => (f.1, f.2.toJson)))),
    ("sortModel", some (.array (r.sorts.map SortEntry.toJson))),
    ("startRow", r.startRow.map wordToJson), ("endRow", r.endRow.map wordToJson),
    ("rowModel", r.rowModel.map fun m => .string m.tag), ("selectAll", some (.bool r.selectAll)),
    ("toggledNodes", some (.array r.toggled)), ("customFilters", some (.object r.customFilters)),
    ("column", r.column.map .string), ("exportFormat", r.exportFormat.map fun f => .string f.tag),
    ("exportColumns", r.exportColumns.map fun cs => .array (cs.map .string))]

/-- A request is written field by field. -/
lemma toJson_eq (r : Request) : r.toJson = .object (given r.written) := by
  simp only [toJson, written, Json.present_eq_given, Json.given_cons_cons, Json.given_some,
    List.cons_append, List.nil_append, List.append_assoc]

/-- No field of a request is written twice. -/
lemma nodup_written (r : Request) : (Keyed.keys r.written).Nodup := by
  show fieldNames.Nodup
  decide

/-- An optional word is read back. -/
lemma optional_word (h : IsReordering rewrite) {name : String} {found : List (String × Json)}
    {o : Option UInt64} (ho : Keyed.find? name found = (o.map wordToJson).map rewrite) :
    optional Json.uint64? name found = some o := by
  refine Json.optional_map_eq ho ?_
  intro n _
  rw [wordToJson, h.number]
  exact ⟨nofun, by simp [Json.uint64?, Json.Number.ofUInt64, Json.Number.toUInt64?]⟩

/-- Members that are the nodes of filters, each under its column id, are read as these nodes. -/
lemma exists_mapM_nodes {filters : List (String × FilterNode)} {members : List (String × Json)}
    (h : ∀ m ∈ members, ∃ node, Keyed.find? m.1 filters = some node ∧
      FilterNode.ofJson? m.2 = some node) :
    ∃ nodes, (members.mapM fun m => (FilterNode.ofJson? m.2).map fun node => (m.1, node)) =
        some nodes ∧
      Keyed.keys nodes = Keyed.keys members ∧
      ∀ entry ∈ nodes, Keyed.find? entry.1 filters = some entry.2 := by
  induction members with
  | nil => exact ⟨[], rfl, rfl, List.forall_mem_nil _⟩
  | cons m rest ih =>
    obtain ⟨⟨node, hfind, hnode⟩, hrest⟩ := List.forall_mem_cons.mp h
    obtain ⟨nodes, hnodes, hkeys, hall⟩ := ih hrest
    refine ⟨(m.1, node) :: nodes, ?_, ?_, List.forall_mem_cons.mpr ⟨hfind, hall⟩⟩
    · rw [List.mapM_cons, hnode, hnodes]
      rfl
    · rw [Keyed.keys, List.map_cons, ← Keyed.keys, hkeys]
      rfl

/-- Written filters are read back, whatever the order of their column ids is now.

**Proof sketch.** Each node is found under its column id and read back. In ascending order again, the
nodes are the filters, because the same is found under every column id. -/
lemma filtersOfJson?_rewrite (h : IsReordering rewrite) {filters : List (String × FilterNode)}
    (hascending : Keyed.Ascending filters) (hcanonical : ∀ entry ∈ filters, entry.2.IsCanonical) :
    ∃ members, rewrite (.object (filters.map fun f => (f.1, f.2.toJson))) = .object members ∧
      filtersOfJson? (.object members) = some filters := by
  have hkeys : (Keyed.keys (filters.map fun f => (f.1, f.2.toJson))).Nodup := by
    have hsame : Keyed.keys (filters.map fun f => (f.1, f.2.toJson)) = Keyed.keys filters := by
      rw [Keyed.keys, List.map_map]
      rfl
    rw [hsame]
    exact hascending.nodup_keys
  obtain ⟨members, hmembers, hnodup, hfind⟩ := h.object _ hkeys
  have hlookup : ∀ key, Keyed.find? key members =
      (Keyed.find? key filters).map fun node => rewrite node.toJson := by
    intro key
    rw [hfind, Keyed.find?_map, Option.map_map]
    rfl
  have hread : ∀ m ∈ members, ∃ node, Keyed.find? m.1 filters = some node ∧
      FilterNode.ofJson? m.2 = some node := by
    intro m hm
    have hmember := Keyed.find?_of_mem hnodup hm
    rw [hlookup] at hmember
    obtain ⟨node, hnode, hwritten⟩ := Option.map_eq_some_iff.mp hmember
    have hcanonicalNode := hcanonical _ (Keyed.mem_of_find? hnode)
    exact ⟨node, hnode, hwritten ▸ node.ofJson?_rewrite_toJson h hcanonicalNode⟩
  obtain ⟨nodes, hnodes, hsame, hentries⟩ := exists_mapM_nodes hread
  have hnodup' : (Keyed.keys nodes).Nodup := hsame ▸ hnodup
  have hback : Keyed.ofList nodes = filters := by
    refine (Keyed.ascending_ofList nodes).ext hascending ?_
    intro key
    rw [Keyed.find?_ofList hnodup']
    cases hfound : Keyed.find? key nodes with
    | some node => exact (hentries _ (Keyed.mem_of_find? hfound)).symm
    | none =>
      rw [Keyed.find?_eq_none_iff, hsame, ← Keyed.find?_eq_none_iff, hlookup,
        Option.map_eq_none_iff] at hfound
      exact hfound.symm
  refine ⟨members, hmembers, ?_⟩
  rw [filtersOfJson?, hnodes, Option.map_some, hback]

/-- **A canonical request is read back** from what it is written as.

**Proof sketch.** A request is written field by field, and each field is read as it was written. -/
theorem ofJson?_rewrite_toJson (h : IsReordering rewrite) (hr : r.IsCanonical) :
    ofJson? (rewrite r.toJson) = some r := by
  obtain ⟨found, hfound, hfind⟩ := h.exists_fields?_given r.nodup_written fieldNames
  have hfilters : orNull [] filtersOfJson? "filterModel" found = some r.filters := by
    obtain ⟨members, hmembers, hread⟩ := filtersOfJson?_rewrite h hr.ascending hr.filters
    have hmodel : Keyed.find? "filterModel" found = some (.object members) := by
      rw [← hmembers]
      exact hfind "filterModel" (by decide)
    rw [Json.orNull_eq hmodel nofun, hread]
  have hcustom : orNull [] customFiltersOfJson? "customFilters" found = some r.customFilters := by
    have hvalues := hfind "customFilters" (by decide)
    have hsame := h.canonical _ hr.customFilters
    have hnull := h.ne_null hr.customFilters nofun
    rw [Json.orNull_eq hvalues hnull, customFiltersOfJson?, hsame]
    rfl
  have hsorts : orNull [] (listOf? SortEntry.ofJson?) "sortModel" found = some r.sorts :=
    h.orNull_list (fun e _ => e.ofJson?_rewrite_toJson h) (hfind "sortModel" (by decide))
  have hstart := optional_word h (hfind "startRow" (by decide))
  have hend := optional_word h (hfind "endRow" (by decide))
  have hmodel := h.optional_tag RowModel.isTagTable (hfind "rowModel" (by decide))
  have hselectAll := h.orNull_bool (hfind "selectAll" (by decide))
  have htoggled := h.orNull_plain hr.toggled (hfind "toggledNodes" (by decide))
  have hcolumn := h.optional_string (hfind "column" (by decide))
  have hformat := h.optional_tag ExportFormat.isTagTable (hfind "exportFormat" (by decide))
  have hcolumns := h.optional_strings (hfind "exportColumns" (by decide))
  rw [toJson_eq, ofJson?, hfound]
  simp only [Option.bind_eq_bind, Option.bind_some, hfilters, hsorts, hstart, hend, hmodel,
    hselectAll, htoggled, hcustom, hcolumn, hformat, hcolumns]
  rfl

/-- **There and back.** A request that was read is read again, field by field, from what it is written
as, in whatever order the members of objects come. So no two of them are written alike, and what is
read back is written as before. The filter tree of each column is read back from what it is written
as by itself.

**Proof sketch.** What was read is canonical (`isCanonical_of_ofJson?`), and of canonical requests
writing is undone by reading (`ofJson?_rewrite_toJson`). -/
theorem read_back {j : Json} (hr : ofJson? j = some r) :
    ofJson? r.toJson = some r ∧
      (∀ rewrite, IsReordering rewrite → ofJson? (rewrite r.toJson) = some r) ∧
      (∀ j' r', ofJson? j' = some r' → r'.toJson = r.toJson → r' = r) ∧
      (∀ r', ofJson? r.toJson = some r' → r'.toJson = r.toJson) ∧
      ∀ entry ∈ r.filters, FilterNode.ofJson? entry.2.toJson = some entry.2 := by
  have hcanonical := isCanonical_of_ofJson? hr
  have hback : ofJson? r.toJson = some r := ofJson?_rewrite_toJson Json.isReordering_id hcanonical
  refine ⟨hback, fun rewrite h => ofJson?_rewrite_toJson h hcanonical, ?_, ?_, ?_⟩
  · intro j' r' hr' hwritten
    have hback' : ofJson? r'.toJson = some r' :=
      ofJson?_rewrite_toJson Json.isReordering_id (isCanonical_of_ofJson? hr')
    rw [hwritten, hback, Option.some.injEq] at hback'
    exact hback'.symm
  · intro r' hr'
    rw [hback, Option.some.injEq] at hr'
    rw [hr']
  · intro entry hentry
    exact entry.2.ofJson?_rewrite_toJson Json.isReordering_id (hcanonical.filters entry hentry)

/-- A group of a leaf and of a group without conditions, with members that nobody asks for, a
null where there may be none, and a custom filter whose keys do not ascend. -/
def nested : Json := .object [
  ("filterModel", .object [
    ("name", .object [
      ("filterType", .string "text"),
      ("operator", .string "OR"),
      ("conditions", .array [
        .object [("filterType", .string "text"), ("type", .string "contains"),
          ("filter", .string "pink"), ("filterTo", .null)],
        .array [.string "and", .array []]])]),
    ("keeper.name", .object [
      ("filterType", .string "set"),
      ("values", .array [.null, .object [("b", .null), ("a", .bool true)]])])]),
  ("startRow", .number (.int 5 (by decide))),
  ("rowModel", .string "serverSide"),
  ("customFilters", .object [("trashed", .bool true), ("tally", .array [])]),
  ("theme", .string "dark")]

/-- A request with nested groups, there and back. -/
theorem read_back_nested :
    ∃ r, ofJson? nested = some r ∧ ofJson? r.toJson = some r ∧
      ofJson? r.toJson.canonical = some r ∧
      ∀ entry ∈ r.filters, FilterNode.ofJson? entry.2.toJson = some entry.2 := by
  obtain ⟨r, hr⟩ : ∃ r, ofJson? nested = some r := ⟨_, rfl⟩
  obtain ⟨hback, hreordered, -, -, hfilters⟩ := read_back hr
  exact ⟨r, hr, hback, hreordered _ Json.isReordering_canonical, hfilters⟩

end Request

end DataGrid
