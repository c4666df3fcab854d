import DataGrid.Json.Record
import DataGrid.Proofs.Json.Canonical
import DataGrid.Request.Wire
import Mathlib.Data.List.Nodup

/-!
# Fields of records

A record is written with those of its fields that have a value, and read by looking up each field by
its name. Whatever else stands in the object, and in whatever order, a field that was written is
found again, and a field that was left out is not.

## Main definitions

* `DataGrid.Json.given` — the members of a record that have a value.

## Main results

* `DataGrid.Json.exists_fields?_eq` — the fields that are read from an object.
* `DataGrid.Json.IsReordering.exists_fields?_given` — the fields that are read from a written record.
* `DataGrid.Json.optional_eq`, `DataGrid.Json.exists_of_optional_eq_some` — what an optional field
  is read as, and where it came from.
-/

namespace DataGrid.Json

variable {α : Type} {name : String} {names : List String} {members found : List (String × Json)}

/-! ## Fields of an object -/

/-- No name is repeated among different keys. -/
lemma distinctFields_of_nodup (h : (Keyed.keys members).Nodup) (names : List String) :
    distinctFields names members = true := by
  rw [distinctFields, List.all_eq_true]
  intro name _
  rw [decide_eq_true_iff]
  have hcount : (members.filter fun m => m.1 == name).length =
      (Keyed.keys members).count name := by
    rw [Keyed.keys, List.count_eq_countP, List.countP_map, List.countP_eq_length_filter]
    rfl
  rw [hcount]
  exact List.nodup_iff_count_le_one.mp h name

/-- A member with a name that is not repeated is the one that is found. -/
lemma find?_eq_of_mem {j : Json} (h : distinctFields names members = true) (hname : name ∈ names)
    (hmem : (name, j) ∈ members) : Keyed.find? name members = some j := by
  have hcount : (members.filter fun m => m.1 == name).length ≤ 1 := by
    rw [distinctFields, List.all_eq_true] at h
    exact of_decide_eq_true (h name hname)
  clear h
  induction members with
  | nil => cases hmem
  | cons m rest ih =>
    obtain ⟨key, found⟩ := m
    by_cases hkey : key = name
    · subst hkey
      rw [List.filter_cons_of_pos (by simp), List.length_cons] at hcount
      have hrest : rest.filter (fun m => m.1 == key) = [] :=
        List.eq_nil_of_length_eq_zero (by omega)
      rw [List.filter_eq_nil_iff] at hrest
      rcases List.mem_cons.mp hmem with hfirst | hlater
      · rw [(Prod.mk.inj hfirst).2]
        exact Keyed.find?_cons_self key found rest
      · exact absurd (beq_self_eq_true key) (hrest _ hlater)
    · rw [List.filter_cons_of_neg (by simpa using hkey)] at hcount
      rw [Keyed.find?, if_neg hkey]
      refine ih ?_ hcount
      rcases List.mem_cons.mp hmem with hfirst | hlater
      · exact absurd (Prod.mk.inj hfirst).1.symm hkey
      · exact hlater

/-- Members without a known name do not matter for what is found under a known one. -/
lemma find?_filter_contains (hname : name ∈ names) (members : List (String × Json)) :
    Keyed.find? name (members.filter fun m => names.contains m.1) = Keyed.find? name members := by
  induction members with
  | nil => rfl
  | cons m rest ih =>
    obtain ⟨key, j⟩ := m
    by_cases hkey : key ∈ names
    · rw [List.filter_cons_of_pos (by simpa using hkey), Keyed.find?, Keyed.find?, ih]
    · have hne : key ≠ name := by
        intro hsame
        exact hkey (hsame ▸ hname)
      rw [List.filter_cons_of_neg (by simpa using hkey), Keyed.find?, if_neg hne, ih]

/-- **The fields of an object** without repeated keys are what is found under their names. -/
lemma exists_fields?_eq (h : (Keyed.keys members).Nodup) (names : List String) :
    ∃ found, fields? names (.object members) = some found ∧
      ∀ name ∈ names, Keyed.find? name found = Keyed.find? name members := by
  refine ⟨members.filter fun m => names.contains m.1, ?_, ?_⟩
  · rw [fields?, if_pos (distinctFields_of_nodup h names)]
  · intro name hname
    exact find?_filter_contains hname members

/-! ## Written records -/

/-- The members of a record that have a value. -/
def given (fields : List (String × Option Json)) : List (String × Json) :=
  fields.filterMap fun field => field.2.map fun j => (field.1, j)

/-- A member that is written only if there is a value. -/
lemma present_eq_given (key : String) (toJson : α → Json) (o : Option α) :
    present key toJson o = given [(key, o.map toJson)] := by
  cases o <;> rfl

/-- The members of a record are those of its first field and of the others. -/
lemma given_cons_cons (first second : String × Option Json) (rest : List (String × Option Json)) :
    given (first :: second :: rest) = given [first] ++ given (second :: rest) := by
  rw [given, given, given, ← List.filterMap_append, List.singleton_append]

/-- A field with a value is a member. -/
lemma given_some (key : String) (j : Json) : given [(key, some j)] = [(key, j)] := rfl

/-- The keys of written members are among the names of the fields. -/
lemma keys_given_sublist (fields : List (String × Option Json)) :
    (Keyed.keys (given fields)).Sublist (Keyed.keys fields) := by
  induction fields with
  | nil => exact List.Sublist.refl _
  | cons field rest ih =>
    obtain ⟨key, o⟩ := field
    cases o with
    | none => exact ih.cons key
    | some j => exact ih.cons_cons key

/-- A field is found when it has a value. -/
lemma find?_given {fields : List (String × Option Json)} (h : (Keyed.keys fields).Nodup)
    (name : String) : Keyed.find? name (given fields) = (Keyed.find? name fields).join := by
  induction fields with
  | nil => rfl
  | cons field rest ih =>
    obtain ⟨key, o⟩ := field
    obtain ⟨hfresh, hrest⟩ := List.nodup_cons.mp h
    by_cases hkey : key = name
    · subst hkey
      rw [Keyed.find?_cons_self]
      cases o with
      | none =>
        have hnone : key ∉ Keyed.keys (given rest) := fun hmem =>
          hfresh ((keys_given_sublist rest).subset hmem)
        exact Keyed.find?_eq_none_iff.mpr hnone
      | some j => exact Keyed.find?_cons_self key j (given rest)
    · rw [Keyed.find?, if_neg hkey, ← ih hrest]
      cases o with
      | none => rfl
      | some j => exact if_neg hkey

/-- **A written record is read field by field**: under each name is what was written, rewritten, if
anything was. -/
theorem IsReordering.exists_fields?_given {rewrite : Json → Json} (h : IsReordering rewrite)
    {fields : List (String × Option Json)} (hfields : (Keyed.keys fields).Nodup)
    (names : List String) :
    ∃ found, fields? names (rewrite (.object (given fields))) = some found ∧
      ∀ name ∈ names, Keyed.find? name found = (Keyed.find? name fields).join.map rewrite := by
  have hkeys : (Keyed.keys (given fields)).Nodup := hfields.sublist (keys_given_sublist fields)
  obtain ⟨members, hmembers, hnodup, hfind⟩ := h.object (given fields) hkeys
  obtain ⟨found, hfound, hread⟩ := exists_fields?_eq hnodup names
  refine ⟨found, hmembers ▸ hfound, ?_⟩
  intro name hname
  rw [hread name hname, hfind, find?_given hfields]

/-! ## Single fields -/

variable {read : Json → Option α} {default : α} {o : Option α} {j : Json}

/-- A field that is there is read. -/
lemma required_eq (h : Keyed.find? name found = some j) : required read name found = read j := by
  rw [required, h, Option.bind_some]

/-- A field that is there and not null is read. -/
lemma orNull_eq (h : Keyed.find? name found = some j) (hnull : j ≠ .null) :
    orNull default read name found = read j := by
  unfold orNull
  rw [h]
  split
  · next hnone => cases hnone
  · next hnone => exact absurd (Option.some.inj hnone) hnull
  · next hsome => rw [Option.some.inj hsome]

/-- A field that is there is read. -/
lemma orAbsent_eq (h : Keyed.find? name found = some j) :
    orAbsent default read name found = read j := by
  rw [orAbsent, h]

/-- **An optional field is read as it was written**, if its values are read as they are written and
none of them is written as null. -/
lemma optional_eq {write : α → Json} (h : Keyed.find? name found = o.map write)
    (hread : ∀ a, o = some a → write a ≠ .null ∧ read (write a) = some a) :
    optional read name found = some o := by
  unfold optional
  rw [h]
  cases o with
  | none => rfl
  | some a =>
    obtain ⟨hnull, ha⟩ := hread a rfl
    rw [Option.map_some]
    split
    · next hnone => cases hnone
    · next hnone => exact absurd (Option.some.inj hnone) hnull
    · next hsome => rw [← Option.some.inj hsome, ha, Option.map_some]

/-- An optional field is read as it was written and rewritten. -/
lemma optional_map_eq {write : α → Json} {rewrite : Json → Json}
    (h : Keyed.find? name found = (o.map write).map rewrite)
    (hread : ∀ a, o = some a → rewrite (write a) ≠ .null ∧ read (rewrite (write a)) = some a) :
    optional read name found = some o := by
  rw [Option.map_map] at h
  exact optional_eq h hread

/-- The value of an optional field was read from something that is not null. -/
lemma exists_of_optional_eq_some (h : optional read name found = some o) {a : α} (ha : o = some a) :
    ∃ j, Keyed.find? name found = some j ∧ j ≠ .null ∧ read j = some a := by
  subst ha
  unfold optional at h
  split at h
  · cases h
  · cases h
  · next j hnull hj =>
    obtain ⟨a', ha', hsame⟩ := Option.map_eq_some_iff.mp h
    rw [Option.some.injEq] at hsame
    exact ⟨j, hj, hnull, hsame ▸ ha'⟩

/-- The value of a field is its default, or was read. -/
lemma eq_or_exists_of_orNull_eq_some {a : α} (h : orNull default read name found = some a) :
    a = default ∨ ∃ j, read j = some a := by
  unfold orNull at h
  split at h
  · exact .inl (Option.some.inj h).symm
  · exact .inl (Option.some.inj h).symm
  · exact .inr ⟨_, h⟩

end DataGrid.Json
