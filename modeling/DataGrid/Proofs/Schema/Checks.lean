import DataGrid.Proofs.Schema.Accepted
import DataGrid.Proofs.Schema.Names

/-!
# The check of an entity

An entity is checked name by name, in a fixed order, and the first name that is not safe is refused
together with its role. Only then its primary key is looked for. What passes the check is exactly
what is admissible: all names are safe, and the primary key is declared.

## Main definitions

* `DataGrid.Entity.roles` — the names of an entity in the order of their checks.
* `DataGrid.Entity.IsAdmissible` — all of them are safe, and the primary key is declared.

## Main results

* `DataGrid.Entity.check_eq` — the outcome of the check.
* `DataGrid.Entity.check_eq_ok_iff` — the entities that pass it are the admissible ones.
-/

namespace DataGrid

/-! ## Entities -/

/-- The names of a relation with their roles, in the order of their checks. -/
def Relation.roles (relation : Relation) : List (NameRole × String) :=
  [(.relation, relation.name), (.localKey, relation.localKey), (.foreignKey, relation.foreignKey)]

namespace Entity

/-- The names of an entity with their roles, in the order of their checks. -/
def roles (e : Entity) : List (NameRole × String) :=
  [(.entity, e.name), (.table, e.table), (.primaryKey, e.primaryKey)] ++
    (e.softDelete.toList.map (Prod.mk .softDelete) ++
      (e.columns.map (fun c => (.column, c.name)) ++ e.relations.flatMap Relation.roles))

/-- All names of the entity are safe, and its primary key is one of its columns. -/
structure IsAdmissible (e : Entity) : Prop where
  name : IsSafeIdentifier e.name
  table : IsSafeIdentifier e.table
  primaryKey : IsSafeIdentifier e.primaryKey
  softDelete : ∀ column, e.softDelete = some column → IsSafeIdentifier column
  columns : ∀ c ∈ e.columns, IsSafeIdentifier c.name
  relations : ∀ relation ∈ e.relations, IsSafeIdentifier relation.name ∧
    IsSafeIdentifier relation.localKey ∧ IsSafeIdentifier relation.foreignKey
  declares : e.Declares e.primaryKey

/-- Names are refused from the first one on that is not safe. -/
lemma forM_checkName (names : List (NameRole × String)) :
    forM names (fun p => checkName p.1 p.2) =
      match names.find? fun p => !isSafeName p.2 with
      | some p => .error (.unsafeName p.1 p.2)
      | none => .ok () := by
  induction names with
  | nil => rfl
  | cons p rest ih =>
    rw [List.forM_cons, ih, checkName, List.find?_cons]
    cases isSafeName p.2 <;> rfl

/-- The checks of relations are those of their names. -/
lemma forM_check (relations : List Relation) :
    forM relations Relation.check =
      forM (relations.flatMap Relation.roles) fun p => checkName p.1 p.2 := by
  induction relations with
  | nil => rfl
  | cons relation rest ih =>
    rw [List.forM_cons, ih, List.flatMap_cons, List.forM_append]
    congr 1
    simp [Relation.check, Relation.roles]

/-- All names are checked in order, and then the primary key is looked for. -/
lemma check_eq_forM (e : Entity) :
    e.check = (forM e.roles fun p => checkName p.1 p.2) >>= fun _ =>
      if (e.column? e.primaryKey).isSome then pure ()
      else throw (.noPrimaryKey e.name e.primaryKey) := by
  cases hsoft : e.softDelete <;>
    simp only [check, roles, hsoft, List.forM_eq_forM, forM_check, List.forM_append, List.forM_map,
      List.forM_cons, List.forM_nil, bind_assoc, pure_bind, Option.toList_none, Option.toList_some,
      List.map_nil, List.map_cons]

/-- **The outcome of the check**: the first name that is not safe is refused with its role, and
where all names are safe, the primary key has to be declared. -/
theorem check_eq (e : Entity) :
    e.check = match e.roles.find? fun p => !isSafeName p.2 with
      | some p => .error (.unsafeName p.1 p.2)
      | none => if (e.column? e.primaryKey).isSome then .ok ()
        else .error (.noPrimaryKey e.name e.primaryKey) := by
  rw [check_eq_forM, forM_checkName]
  cases e.roles.find? fun p => !isSafeName p.2 <;> rfl

/-- A declared column is found by its name. -/
lemma isSome_column?_iff {e : Entity} {column : String} :
    (e.column? column).isSome = true ↔ e.Declares column := by
  refine ⟨declares_of_column?, fun ⟨c, hc, hname⟩ => ?_⟩
  rw [column?, List.find?_isSome]
  exact ⟨c, hc, decide_eq_true hname⟩

/-- All names of an entity, in one list or kind by kind. -/
lemma forall_mem_roles {e : Entity} {P : String → Prop} :
    (∀ p ∈ e.roles, P p.2) ↔ P e.name ∧ P e.table ∧ P e.primaryKey ∧
      (∀ column, e.softDelete = some column → P column) ∧ (∀ c ∈ e.columns, P c.name) ∧
      ∀ relation ∈ e.relations, P relation.name ∧ P relation.localKey ∧ P relation.foreignKey := by
  simp only [roles, Relation.roles, List.forall_mem_append, List.forall_mem_cons,
    List.forall_mem_map, List.forall_mem_flatMap, List.not_mem_nil, false_imp_iff, implies_true,
    Option.mem_toList, and_true, and_assoc]

/-- **The entities that pass the check are the admissible ones.** -/
theorem check_eq_ok_iff {e : Entity} : e.check = .ok () ↔ e.IsAdmissible := by
  have hnames : e.roles.find? (fun p => !isSafeName p.2) = none ↔
      ∀ p ∈ e.roles, IsSafeIdentifier p.2 := by
    rw [List.find?_eq_none]
    refine forall₂_congr fun p _ => ?_
    rw [Bool.not_eq_true, Bool.not_eq_false', isSafeName_iff]
  have hok : e.check = .ok () ↔ e.roles.find? (fun p => !isSafeName p.2) = none ∧
      (e.column? e.primaryKey).isSome = true := by
    rw [check_eq]
    cases e.roles.find? fun p => !isSafeName p.2 with
    | some p => exact iff_of_false nofun fun h => nomatch h.1
    | none =>
      rw [and_iff_right rfl]
      dsimp only
      split
      · next hdeclared => exact iff_of_true rfl hdeclared
      · next hmissing => exact iff_of_false nofun hmissing
  rw [hok, hnames, isSome_column?_iff, forall_mem_roles]
  constructor
  · rintro ⟨⟨hname, htable, hkey, hsoft, hcolumns, hrelations⟩, hdeclares⟩
    exact ⟨hname, htable, hkey, hsoft, hcolumns, hrelations, hdeclares⟩
  · intro h
    exact ⟨⟨h.name, h.table, h.primaryKey, h.softDelete, h.columns, h.relations⟩, h.declares⟩

/-- Whether an entity is admissible can be decided by its check. -/
instance (e : Entity) : Decidable e.IsAdmissible :=
  decidable_of_iff (e.check = .ok ()) check_eq_ok_iff

end Entity

end DataGrid
