import DataGrid.Proofs.Request.Nodes
import Mathlib.Logic.Relation

/-!
# Idle fields

Fields without information. A field that a record does not have is passed over when the record is
read, and a field that is null counts as absent, be it optional, given a default or required. So it
makes no difference to a request whether such fields stand in it or in its filter nodes, at any
depth of the filter trees. Whether a node is a group or a leaf makes no exception: a group lacks
what it needs when its operator or its conditions are null, just as if they were not there.

The fields of an object have different names. Where a text repeats one, not even a null is idle,
because a record with a repeated field is refused.

## Main definitions

* `DataGrid.Json.IsIdle` — a field that carries no information.
* `DataGrid.FilterNode.Sheds`, `DataGrid.Request.Sheds` — a document loses one idle field.

## Main results

* `DataGrid.FilterNode.Sheds.ofJson?_eq`, `DataGrid.Request.Sheds.ofJson?_eq` — one idle field less.
* `DataGrid.Request.ofJson?_eq_of_sheds` — any idle fields more or less.
-/

namespace DataGrid

namespace Json

variable {α : Type} {name : String} {names : List String} {value : Json}
  {fields fields' front back : List (String × Json)}

/-! ## Absent fields and null -/

/-- A field carries no information for a record that has the given names: it is none of them, or it
is null and the only one of its name. -/
def IsIdle (names : List String) (name : String) (value : Json) (others : List (String × Json)) :
    Prop :=
  name ∉ names ∨ value = .null ∧ name ∉ Keyed.keys others

/-- What stands under a name, and null when there is nothing. -/
def fieldOrNull (name : String) (fields : List (String × Json)) : Json :=
  (Keyed.find? name fields).getD .null

/-- Two records have the same under all names, when absent fields and null are the same. -/
def SameFields (names : List String) (fields fields' : List (String × Json)) : Prop :=
  ∀ name ∈ names, fieldOrNull name fields = fieldOrNull name fields'

/-- So they have the same under some of the names. -/
lemma SameFields.mono {known : List String} (h : SameFields names fields fields')
    (hknown : known ⊆ names) : SameFields known fields fields' :=
  fun name hname => h name (hknown hname)

/-- An optional field is read alike from both. -/
lemma optional_congr {read : Json → Option α}
    (h : fieldOrNull name fields = fieldOrNull name fields') :
    optional read name fields = optional read name fields' := by
  have hnull : ∀ fields,
      optional read name fields = optional read name [(name, fieldOrNull name fields)] := by
    intro fields
    unfold fieldOrNull optional
    rw [Keyed.find?_cons_self]
    cases Keyed.find? name fields <;> rfl
  rw [hnull, h, ← hnull]

/-- So is a field with a default. -/
lemma orNull_congr {default : α} {read : Json → Option α}
    (h : fieldOrNull name fields = fieldOrNull name fields') :
    orNull default read name fields = orNull default read name fields' := by
  have hnull : ∀ fields, orNull default read name fields =
      orNull default read name [(name, fieldOrNull name fields)] := by
    intro fields
    unfold fieldOrNull orNull
    rw [Keyed.find?_cons_self]
    cases Keyed.find? name fields <;> rfl
  rw [hnull, h, ← hnull]

/-- So is a required field, when null cannot be read. -/
lemma required_congr {read : Json → Option α} (hread : read .null = none)
    (h : fieldOrNull name fields = fieldOrNull name fields') :
    required read name fields = required read name fields' := by
  have hnull : ∀ fields, required read name fields = read (fieldOrNull name fields) := by
    intro fields
    unfold required fieldOrNull
    cases Keyed.find? name fields with
    | none => exact hread.symm
    | some j => rfl
  rw [hnull, h, ← hnull]

/-- What holds of two results whenever another thing does. -/
lemma optionRel_imp {β : Type} {R R' : α → β → Prop} (h : ∀ a b, R a b → R' a b) {o : Option α}
    {o' : Option β} (ho : Option.Rel R o o') : Option.Rel R' o o' := by
  cases ho with
  | none => exact .none
  | some hab => exact .some (h _ _ hab)

/-- What is made of two results is the same, if it is made alike of related ones. -/
lemma bind_congr_of_rel {β γ : Type} {R : α → β → Prop} {f : α → Option γ} {g : β → Option γ}
    {o : Option α} {o' : Option β} (ho : Option.Rel R o o') (h : ∀ a b, R a b → f a = g b) :
    o.bind f = o'.bind g := by
  cases ho with
  | none => rfl
  | some hab => exact h _ _ hab

/-! ## One member less -/

/-- An idle field does not matter to what stands under the names of the record. -/
lemma IsIdle.sameFields (h : IsIdle names name value (front ++ back)) :
    SameFields names (front ++ (name, value) :: back) (front ++ back) := by
  intro other hother
  unfold fieldOrNull
  by_cases hname : name = other
  · subst hname
    obtain ⟨rfl, hfresh⟩ := h.resolve_left (fun hnone => hnone hother)
    rw [← Keyed.find?_eq_none_iff] at hfresh
    have hfront : Keyed.find? name front = none := by
      rw [Keyed.find?_append] at hfresh
      exact (Option.or_eq_none_iff.mp hfresh).1
    rw [hfresh, Keyed.find?_append, hfront, Keyed.find?_cons_self]
    rfl
  · rw [Keyed.find?_append_cons_of_ne hname]

/-- An idle field is no repetition. -/
lemma IsIdle.distinctFields_eq (h : IsIdle names name value (front ++ back)) :
    distinctFields names (front ++ (name, value) :: back) =
      distinctFields names (front ++ back) := by
  rw [Bool.eq_iff_iff, distinctFields, distinctFields, List.all_eq_true, List.all_eq_true]
  refine forall₂_congr fun other hother => ?_
  rw [decide_eq_true_iff, decide_eq_true_iff]
  by_cases hname : name = other
  · subst hname
    obtain ⟨-, hfresh⟩ := h.resolve_left (fun hnone => hnone hother)
    have hnone : (front ++ back).filter (fun m => m.1 == name) = [] := by
      rw [List.filter_eq_nil_iff]
      intro m hm hsame
      exact hfresh (beq_iff_eq.mp hsame ▸ List.mem_map_of_mem hm)
    rw [List.filter_append, List.append_eq_nil_iff] at hnone
    simp [hnone.1, hnone.2]
  · simp [hname]

/-- **A record without an idle field** has the same fields as before, if it can be read. -/
lemma IsIdle.rel_fields? (h : IsIdle names name value (front ++ back)) :
    Option.Rel (SameFields names) (fields? names (.object (front ++ (name, value) :: back)))
      (fields? names (.object (front ++ back))) := by
  rw [fields?, fields?, h.distinctFields_eq]
  split
  · refine .some fun other hother => ?_
    unfold fieldOrNull
    rw [find?_filter_contains hother, find?_filter_contains hother]
    exact h.sameFields other hother
  · exact .none

/-- **Records with the same keys** can both be read or neither, and have the fields that are found
among their members. -/
lemma rel_fields?_of_keys_eq {members members' : List (String × Json)}
    (h : Keyed.keys members = Keyed.keys members') (names : List String) :
    Option.Rel
      (fun fields fields' => ∀ name ∈ names, Keyed.find? name fields = Keyed.find? name members ∧
        Keyed.find? name fields' = Keyed.find? name members')
      (fields? names (.object members)) (fields? names (.object members')) := by
  have hcount : ∀ (members : List (String × Json)) (name : String),
      (members.filter fun m => m.1 == name).length = (Keyed.keys members).count name := by
    intro members name
    rw [Keyed.keys, List.count_eq_countP, List.countP_map, List.countP_eq_length_filter]
    rfl
  have hdistinct : distinctFields names members = distinctFields names members' := by
    simp only [distinctFields, hcount, h]
  rw [fields?, fields?, hdistinct]
  split
  · exact .some fun name hname => ⟨find?_filter_contains hname _, find?_filter_contains hname _⟩
  · exact .none

/-- The value of one member does not matter to what stands under other names. -/
lemma sameFields_exchange {known : List String} {value' : Json} (hknown : known ⊆ names)
    (hname : name ∉ known)
    (h : ∀ other ∈ names,
      Keyed.find? other fields = Keyed.find? other (front ++ (name, value) :: back) ∧
        Keyed.find? other fields' = Keyed.find? other (front ++ (name, value') :: back)) :
    SameFields known fields fields' := by
  intro other hother
  have hne : name ≠ other := fun hsame => hname (hsame ▸ hother)
  obtain ⟨hleft, hright⟩ := h other (hknown hother)
  unfold fieldOrNull
  rw [hleft, hright, Keyed.find?_append_cons_of_ne hne, Keyed.find?_append_cons_of_ne hne]

/-- Nor does it matter to whether there is a record. -/
lemma rel_fields?_exchange {known : List String} (hknown : known ⊆ names) (hname : name ∉ known)
    (front back : List (String × Json)) (value value' : Json) :
    Option.Rel (SameFields known) (fields? names (.object (front ++ (name, value) :: back)))
      (fields? names (.object (front ++ (name, value') :: back))) :=
  optionRel_imp (fun _ _ => sameFields_exchange hknown hname)
    (rel_fields?_of_keys_eq (by simp [Keyed.keys]) names)

end Json

open Json (fields? required optional orNull listOf? SameFields fieldOrNull IsIdle)

/-! ## Leaves -/

/-- A leaf is read alike from the same fields. -/
lemma LeafFilter.ofJson?_congr {j j' : Json}
    (h : Option.Rel (SameFields fieldNames) (fields? fieldNames j) (fields? fieldNames j')) :
    ofJson? j = ofJson? j' := by
  refine Json.bind_congr_of_rel h fun fields fields' h => ?_
  have hkind := Json.required_congr (rfl : Json.string? .null = none) (h "filterType" (by decide))
  simp only [hkind, Json.optional_congr (h "type" (by decide)),
    Json.optional_congr (h "filter" (by decide)), Json.optional_congr (h "filterTo" (by decide)),
    Json.optional_congr (h "dateFrom" (by decide)), Json.optional_congr (h "dateTo" (by decide)),
    Json.orNull_congr (h "values" (by decide)), Json.orNull_congr (h "all" (by decide))]

namespace FilterNode

/-! ## Filter nodes -/

/-- The fields of filter nodes, be they groups or leaves. -/
def fieldNames : List String := groupFieldNames ++ LeafFilter.fieldNames

/-- A filter node loses one idle field, of its own or of a condition at any depth. -/
inductive Sheds : Json → Json → Prop
  | field (front back : List (String × Json)) {name : String} {value : Json} :
    IsIdle fieldNames name value (front ++ back) →
    Sheds (.object (front ++ (name, value) :: back)) (.object (front ++ back))
  | condition (front back : List (String × Json)) (before after : List Json) {item item' : Json} :
    Sheds item item' →
    Sheds (.object (front ++ ("conditions", .array (before ++ item :: after)) :: back))
      (.object (front ++ ("conditions", .array (before ++ item' :: after)) :: back))
  | second (operator : Json) (before after : List Json) {item item' : Json} :
    Sheds item item' →
    Sheds (.array [operator, .array (before ++ item :: after)])
      (.array [operator, .array (before ++ item' :: after)])

variable {j j' : Json} {name : String} {value : Json} {front back : List (String × Json)}

/-- What is idle in a filter node is idle in both of its forms. -/
lemma isIdle_forms {others : List (String × Json)} (h : IsIdle fieldNames name value others) :
    IsIdle groupFieldNames name value others ∧ IsIdle LeafFilter.fieldNames name value others := by
  unfold IsIdle fieldNames at *
  rw [List.mem_append, not_or] at h
  tauto

/-- A group has the same operator when the same stands under its name. -/
lemma groupOperator?_congr
    (h : Option.Rel (SameFields ["operator"]) (fields? groupFieldNames j)
      (fields? groupFieldNames j')) :
    groupOperator? j = groupOperator? j' :=
  Json.bind_congr_of_rel h fun _ _ h =>
    Json.required_congr rfl (h "operator" (List.mem_singleton_self _))

/-- Conditions are on offer in front, or else behind. -/
lemma itemsOf?_append (front back : List (String × Json)) :
    itemsOf? (front ++ back) = (itemsOf? front).or (itemsOf? back) := by
  induction front with
  | nil => rfl
  | cons m rest ih =>
    obtain ⟨key, j⟩ := m
    rw [List.cons_append]
    cases j with
    | array items =>
      rw [itemsOf?, itemsOf?, ih]
      split <;> rfl
    | _ => rw [itemsOf?, itemsOf?, ih] <;> simp

/-- An idle field offers no conditions. -/
lemma itemsOf?_of_isIdle (h : IsIdle fieldNames name value (front ++ back)) :
    itemsOf? (front ++ (name, value) :: back) = itemsOf? (front ++ back) := by
  have hskip : itemsOf? ((name, value) :: back) = itemsOf? back := by
    rcases h with hname | ⟨rfl, -⟩
    · have hne : name ≠ "conditions" := by
        rintro rfl
        exact hname (by decide)
      cases value with
      | array items => rw [itemsOf?, if_neg hne]
      | _ => rw [itemsOf?]; simp
    · rw [itemsOf?]
      simp
  rw [itemsOf?_append, hskip, ← itemsOf?_append]

/-- Conditions are read alike when one of them is exchanged for one that is. -/
lemma ofItems?_exchange {item item' : Json} (h : ofJson? item = ofJson? item')
    (before after : List Json) :
    ofItems? (before ++ item :: after) = ofItems? (before ++ item' :: after) := by
  induction before with
  | nil => rw [List.nil_append, List.nil_append, ofItems?, ofItems?, h]
  | cons first rest ih => rw [List.cons_append, List.cons_append, ofItems?, ofItems?, ih]

/-- So are the conditions that an object offers. -/
lemma itemsOf?_exchange {items items' : List Json} (h : ofItems? items = ofItems? items')
    (front back : List (String × Json)) :
    (itemsOf? (front ++ ("conditions", .array items) :: back)).bind ofItems? =
      (itemsOf? (front ++ ("conditions", .array items') :: back)).bind ofItems? := by
  rw [itemsOf?_append, itemsOf?_append, itemsOf?, itemsOf?, if_pos rfl, if_pos rfl]
  cases itemsOf? front with
  | none => exact h
  | some found => rfl

/-- An array whose second element is an array is no leaf. -/
lemma leaf_of_second (operator : Json) (items : List Json) :
    LeafFilter.ofJson? (.array [operator, .array items]) = none := by
  cases operator <;> rfl

/-- **A filter node without an idle field** is read as before, or can be read no more than before.

**Proof sketch.** Induction over the way to the field. The node is a group if it was one, since its
operator is the same and its conditions are read alike, and otherwise the same leaf. -/
theorem Sheds.ofJson?_eq (h : Sheds j j') : ofJson? j = ofJson? j' := by
  induction h with
  | @field front back name value hidle =>
    obtain ⟨hgroup, hleaf⟩ := isIdle_forms hidle
    have hoperator : groupOperator? (.object (front ++ (name, value) :: back)) =
        groupOperator? (.object (front ++ back)) := by
      refine groupOperator?_congr (Json.optionRel_imp ?_ hgroup.rel_fields?)
      exact fun _ _ h => h.mono (by decide)
    have hfilter := LeafFilter.ofJson?_congr hleaf.rel_fields?
    rw [FilterNode.ofJson?_eq, FilterNode.ofJson?_eq, hoperator, items?, items?,
      itemsOf?_of_isIdle hidle, hfilter]
  | @condition front back before after item item' _ ih =>
    have hitems := ofItems?_exchange ih before after
    have hoperator : groupOperator?
          (.object (front ++ ("conditions", .array (before ++ item :: after)) :: back)) =
        groupOperator?
          (.object (front ++ ("conditions", .array (before ++ item' :: after)) :: back)) :=
      groupOperator?_congr (Json.rel_fields?_exchange (by decide) (by decide) front back _ _)
    have hfilter : LeafFilter.ofJson?
          (.object (front ++ ("conditions", .array (before ++ item :: after)) :: back)) =
        LeafFilter.ofJson?
          (.object (front ++ ("conditions", .array (before ++ item' :: after)) :: back)) :=
      LeafFilter.ofJson?_congr
        (Json.rel_fields?_exchange (List.Subset.refl _) (by decide) front back _ _)
    rw [FilterNode.ofJson?_eq, FilterNode.ofJson?_eq, hoperator, items?, items?,
      itemsOf?_exchange hitems, hfilter]
  | @second operator before after item item' _ ih =>
    have hoperator : ∀ items, groupOperator? (.array [operator, .array items]) = operator.string? :=
      fun _ => rfl
    rw [FilterNode.ofJson?_eq, FilterNode.ofJson?_eq, hoperator, hoperator, items?, items?,
      Option.bind_some, Option.bind_some, ofItems?_exchange ih before after, leaf_of_second,
      leaf_of_second]

end FilterNode

/-! ## Requests -/

namespace Request

/-- A request loses one idle field, of its own or of a filter node at any depth of its filters. -/
inductive Sheds : Json → Json → Prop
  | field (front back : List (String × Json)) {name : String} {value : Json} :
    IsIdle fieldNames name value (front ++ back) →
    Sheds (.object (front ++ (name, value) :: back)) (.object (front ++ back))
  | node (front back before after : List (String × Json)) {column : String} {node node' : Json} :
    FilterNode.Sheds node node' →
    Sheds (.object (front ++ ("filterModel", .object (before ++ (column, node) :: after)) :: back))
      (.object (front ++ ("filterModel", .object (before ++ (column, node') :: after)) :: back))

variable {j j' : Json}

/-- A request is read alike from filters that are, and from the same other fields. -/
lemma ofJson?_congr
    (h : Option.Rel
      (fun fields fields' => SameFields (fieldNames.erase "filterModel") fields fields' ∧
        orNull [] filtersOfJson? "filterModel" fields =
          orNull [] filtersOfJson? "filterModel" fields')
      (fields? fieldNames j) (fields? fieldNames j')) :
    ofJson? j = ofJson? j' := by
  refine Json.bind_congr_of_rel h fun fields fields' h => ?_
  obtain ⟨hfields, hfilters⟩ := h
  simp only [hfilters, Json.orNull_congr (hfields "sortModel" (by decide)),
    Json.optional_congr (hfields "startRow" (by decide)),
    Json.optional_congr (hfields "endRow" (by decide)),
    Json.optional_congr (hfields "rowModel" (by decide)),
    Json.orNull_congr (hfields "selectAll" (by decide)),
    Json.orNull_congr (hfields "toggledNodes" (by decide)),
    Json.orNull_congr (hfields "customFilters" (by decide)),
    Json.optional_congr (hfields "column" (by decide)),
    Json.optional_congr (hfields "exportFormat" (by decide)),
    Json.optional_congr (hfields "exportColumns" (by decide))]

/-- Filters are read alike when one node is exchanged for one that is. -/
lemma filtersOfJson?_exchange {node node' : Json}
    (h : FilterNode.ofJson? node = FilterNode.ofJson? node') (column : String)
    (before after : List (String × Json)) :
    filtersOfJson? (.object (before ++ (column, node) :: after)) =
      filtersOfJson? (.object (before ++ (column, node') :: after)) := by
  simp only [filtersOfJson?, List.mapM_append, List.mapM_cons, h]

/-- **A request without an idle field** is read as before, or can be read no more than before. -/
theorem Sheds.ofJson?_eq (h : Sheds j j') : ofJson? j = ofJson? j' := by
  cases h with
  | field front back hidle =>
    refine ofJson?_congr (Json.optionRel_imp ?_ hidle.rel_fields?)
    intro fields fields' hsame
    exact ⟨hsame.mono List.erase_subset, Json.orNull_congr (hsame "filterModel" (by decide))⟩
  | @node front back before after column node node' hnode =>
    refine ofJson?_congr
      (Json.optionRel_imp ?_ (Json.rel_fields?_of_keys_eq (by simp [Keyed.keys]) fieldNames))
    intro fields fields' hfound
    refine ⟨Json.sameFields_exchange List.erase_subset (by decide) hfound, ?_⟩
    obtain ⟨hleft, hright⟩ := hfound "filterModel" (by decide)
    unfold orNull
    rw [hleft, hright, Keyed.find?_append, Keyed.find?_append, Keyed.find?_cons_self,
      Keyed.find?_cons_self]
    cases Keyed.find? "filterModel" front with
    | none => exact filtersOfJson?_exchange hnode.ofJson?_eq column before after
    | some found => rfl

/-- **Idle fields carry no information.** Two documents that differ in any number of idle fields, of
the request itself or of filter nodes at any depth, are read as the same request, or neither can be
read.

**Proof sketch.** One field after the other (`Sheds.ofJson?_eq`), lost or gained. -/
theorem ofJson?_eq_of_sheds (h : Relation.EqvGen Sheds j j') : ofJson? j = ofJson? j' := by
  induction h with
  | rel j j' h => exact h.ofJson?_eq
  | refl j => rfl
  | symm j j' _ ih => exact ih.symm
  | trans j middle j' _ _ ih ih' => exact ih.trans ih'

/-- A group of one blank test, in a request with a hint for nobody, a column that is null and an
operand that is null. The same request without them. -/
theorem ofJson?_eq_of_sheds_hints :
    let group (test : List (String × Json)) : String × Json :=
      ("filterModel", .object [("name", .object [("operator", .string "or"),
        ("conditions", .array [.object test])])])
    let blank : List (String × Json) := [("filterType", .string "text"), ("type", .string "blank")]
    let full : Json := .object [("theme", .string "dark"), group (blank ++ [("filter", .null)]),
      ("column", .null)]
    let bare : Json := .object [group blank]
    Relation.EqvGen Sheds full bare ∧ ∃ r, ofJson? full = some r ∧ ofJson? bare = some r := by
  intro group blank full bare
  have hhint : Sheds full (.object [group (blank ++ [("filter", .null)]), ("column", .null)]) :=
    .field [] _ (.inl (by decide))
  have hcolumn : Sheds (.object [group (blank ++ [("filter", .null)]), ("column", .null)])
      (.object [group (blank ++ [("filter", .null)])]) :=
    .field [_] [] (.inr ⟨rfl, by decide⟩)
  have hoperand : Sheds (.object [group (blank ++ [("filter", .null)])]) bare :=
    .node [] [] [] [] (.condition [_] [] [] [] (.field blank [] (.inr ⟨rfl, by decide⟩)))
  have hsheds : Relation.EqvGen Sheds full bare :=
    .trans _ _ _ (.rel _ _ hhint) (.trans _ _ _ (.rel _ _ hcolumn) (.rel _ _ hoperand))
  obtain ⟨r, hr⟩ : ∃ r, ofJson? bare = some r := ⟨_, rfl⟩
  exact ⟨hsheds, r, (ofJson?_eq_of_sheds hsheds).trans hr, hr⟩

end Request

end DataGrid
