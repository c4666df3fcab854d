import DataGrid.Proofs.Keyed
import DataGrid.Proofs.Path.Declared

/-!
# Accepted schemas

A list of entities makes a registry only if it passes all checks. Of a registry that was made in
this way it is known that primary keys are declared, that every relation leads to a registered
entity, and that both of its keys are declared, each on its own side.

The column that marks deleted rows is not among what is checked: its spelling is, but not whether it
is declared.

## Main definitions

* `DataGrid.Entity.Declares` — a column is declared.
* `DataGrid.Registry.IsAccepted` — the entities of a registry have passed all checks.

## Main results

* `DataGrid.Registry.IsAccepted.declares_primaryKey` — primary keys are declared.
* `DataGrid.Registry.IsAccepted.declares_keys` — so are the keys of relations.
-/

namespace DataGrid

/-- A column of the given name is declared. -/
def Entity.Declares (e : Entity) (column : String) : Prop := ∃ c ∈ e.columns, c.name = column

/-- A column is declared if it is found by its name. -/
lemma Entity.declares_of_column? {e : Entity} {column : String}
    (h : (e.column? column).isSome = true) : e.Declares column := by
  obtain ⟨c, hc⟩ := Option.isSome_iff_exists.mp h
  exact ⟨c, List.mem_of_find?_eq_some hc, name_of_column? hc⟩

namespace Registry

/-- The entities of the registry are those of a list that was accepted. Custom filters and export
columns may have been added since. -/
def IsAccepted (r : Registry) : Prop :=
  ∃ entities accepted, ofEntities entities = .ok accepted ∧ r.entities = accepted.entities

variable {r : Registry} {e : Entity}

/-- What a list of entities makes is accepted. -/
lemma isAccepted_of_ofEntities {entities : List Entity} (h : ofEntities entities = .ok r) :
    r.IsAccepted := ⟨entities, r, h, rfl⟩

/-- Registries with the same entities have the same entities under every name. -/
lemma entity?_eq_of_entities_eq {accepted : Registry} (h : r.entities = accepted.entities)
    (name : String) : r.entity? name = accepted.entity? name := by
  simp only [entity?, h]

/-- Every entity has passed the checks on entities. -/
lemma IsAccepted.check_eq_ok (h : r.IsAccepted) (he : r.Has e) : e.check = .ok () := by
  obtain ⟨entities, accepted, haccepted, hentities⟩ := h
  obtain ⟨name, he⟩ := he
  have hhas : accepted.Has e := ⟨name, entity?_eq_of_entities_eq hentities name ▸ he⟩
  exact (built_of_ofEntities haccepted).check_eq_ok e hhas

/-- Primary keys are declared. -/
theorem IsAccepted.declares_primaryKey (h : r.IsAccepted) (he : r.Has e) :
    e.Declares e.primaryKey := by
  obtain ⟨-, -, -, -, -, hkey⟩ := Entity.check_spec (h.check_eq_ok he)
  exact Entity.declares_of_column? hkey

/-- A relation that passes the check leads to a registered entity, along declared columns. -/
lemma exists_of_checkRelation {relation : Relation} (h : r.checkRelation e relation = .ok ()) :
    ∃ target, r.entity? relation.target = some target ∧ e.Declares relation.localKey ∧
      target.Declares relation.foreignKey := by
  unfold checkRelation at h
  split at h
  · cases h
  · next target htarget =>
    split_ifs at h with hlocal hforeign
    refine ⟨target, htarget, ?_, ?_⟩
    · apply Entity.declares_of_column?
      rwa [Bool.not_eq_true, Option.isNone_eq_false_iff] at hlocal
    · apply Entity.declares_of_column?
      rwa [Bool.not_eq_true, Option.isNone_eq_false_iff] at hforeign

/-- **The keys of relations** are declared, the local one on the side the relation starts from and
the foreign one on the side that is reached.

**Proof sketch.** The registry was validated with the entities that it has now, relation by
relation. -/
theorem IsAccepted.declares_keys (h : r.IsAccepted) (he : r.Has e) {relation : Relation}
    (hrelation : relation ∈ e.relations) {target : Entity}
    (htarget : r.entity? relation.target = some target) :
    e.Declares relation.localKey ∧ target.Declares relation.foreignKey := by
  obtain ⟨entities, accepted, haccepted, hentities⟩ := h
  obtain ⟨name, he⟩ := he
  obtain ⟨made, hmade, haccepted⟩ := bind_eq_ok.mp haccepted
  obtain ⟨_, hvalid, haccepted⟩ := bind_eq_ok.mp haccepted
  rw [← pure_eq_ok.mp haccepted] at hentities
  have hmem : (name, e) ∈ made.entities := by
    apply Keyed.mem_of_find?
    rw [← hentities]
    exact he
  have hentity := forM_eq_ok_iff.mp hvalid (name, e) hmem
  have hcheck := forM_eq_ok_iff.mp hentity relation hrelation
  obtain ⟨target', htarget', hlocal, hforeign⟩ := exists_of_checkRelation hcheck
  have hsame : target' = target := by
    rw [← entity?_eq_of_entities_eq hentities, htarget] at htarget'
    exact (Option.some.inj htarget').symm
  exact ⟨hlocal, hsame ▸ hforeign⟩

end Registry

end DataGrid
