import DataGrid.Proofs.Schema.Checks
import DataGrid.Schema.Zoo

/-!
# Runs of a registry

A registry is filled and read by any number of operations in any order: entities are registered or
refused, replaced by later ones of the same name, given custom filters and export columns, validated
and looked up. Whatever happens, all its entities are admissible and stand under their own names,
and each of the three collections holds what was last put into it under each name.

## Main definitions

* `DataGrid.Registry.Operation`, `DataGrid.Registry.perform` — the operations as data, and what one
  does.
* `DataGrid.Registry.run` — the registry after a list of operations.
* `DataGrid.Registry.IsConsistent` — the invariant.
* `DataGrid.Registry.Changes` — what an operation may change.

## Main results

* `DataGrid.Registry.isConsistent_run` — the invariant holds after every run.
* `DataGrid.Registry.perform_changes` — no operation changes more than it may.
* `DataGrid.Registry.run_keeps_names` — what is known of the registry after a run.

## Implementation notes

A registration that is refused gives no registry, so the one that was there stays in use.
-/

namespace DataGrid

namespace Registry

/-! ## Operations -/

/-- What is done with a registry. -/
inductive Operation where
  | register (e : Entity)
  | validate
  | registerHook (name : String) (hook : Hook)
  | registerExports (name : String) (columns : List ExportColumn)
  | lookUp (name : String)
  | list
  | lookUpHook (name : String)
  | lookUpExports (name : String)

/-- What an operation returns. -/
inductive Answer where
  | outcome (outcome : Except SchemaFault Unit)
  | entity (found : Except Fault Entity)
  | names (names : List String)
  | hook (found : Option Hook)
  | exports (found : Option (List ExportColumn))

/-- What an operation returns, and the registry after it. -/
def perform (r : Registry) : Operation → Answer × Registry
  | .register e =>
    match r.register e with
    | .ok next => (.outcome (.ok ()), next)
    | .error fault => (.outcome (.error fault), r)
  | .validate => (.outcome r.validate, r)
  | .registerHook name hook => (.outcome (.ok ()), r.registerHook name hook)
  | .registerExports name columns => (.outcome (.ok ()), r.registerExports name columns)
  | .lookUp name => (.entity (r.entity name), r)
  | .list => (.names r.entityNames, r)
  | .lookUpHook name => (.hook (r.hook? name), r)
  | .lookUpExports name => (.exports (r.exports? name), r)

/-- The registry after operations, one after the other. -/
def run (r : Registry) (operations : List Operation) : Registry :=
  operations.foldl (fun r operation => (r.perform operation).2) r

variable {r : Registry}

/-- An entity is registered when it is admissible, whatever the registry holds. -/
lemma register_eq {e : Entity} (h : e.IsAdmissible) :
    r.register e = .ok { r with entities := Keyed.insert e.name e r.entities } := by
  rw [register, Entity.check_eq_ok_iff.mpr h]
  rfl

/-- Otherwise it is refused. -/
lemma exists_register_eq_error {e : Entity} (h : ¬e.IsAdmissible) :
    ∃ fault, r.register e = .error fault := by
  refine exists_eq_error fun next hnext => h ?_
  obtain ⟨_, hcheck, -⟩ := bind_eq_ok.mp hnext
  exact Entity.check_eq_ok_iff.mp hcheck

/-! ## The invariant -/

/-- Every entity stands under its own name, in the order of names, and is admissible. -/
structure IsConsistent (r : Registry) : Prop where
  ascending : Keyed.Ascending r.entities
  name_eq : ∀ p ∈ r.entities, p.2.name = p.1
  admissible : ∀ p ∈ r.entities, p.2.IsAdmissible

/-- The empty registry is consistent. -/
lemma isConsistent_empty : empty.IsConsistent := ⟨List.Pairwise.nil, nofun, nofun⟩

/-- Operations other than registrations of entities leave the entities. -/
lemma entities_perform {operation : Operation} (h : ∀ e, operation ≠ .register e) :
    (r.perform operation).2.entities = r.entities := by
  cases operation with
  | register e => exact absurd rfl (h e)
  | _ => rfl

/-- Registries with the entities of a consistent one are consistent. -/
lemma IsConsistent.of_entities_eq {next : Registry} (h : r.IsConsistent)
    (hentities : next.entities = r.entities) : next.IsConsistent := by
  refine ⟨?_, ?_, ?_⟩ <;> rw [hentities]
  · exact h.ascending
  · exact h.name_eq
  · exact h.admissible

/-- **One operation** keeps a registry consistent. -/
lemma IsConsistent.perform (h : r.IsConsistent) (operation : Operation) :
    (r.perform operation).2.IsConsistent := by
  cases operation with
  | register e =>
    by_cases hadmissible : e.IsAdmissible
    · rw [Registry.perform, register_eq hadmissible]
      refine ⟨h.ascending.insert e.name e, fun p hp => ?_, fun p hp => ?_⟩
      · rcases Keyed.mem_of_mem_insert hp with rfl | hp
        · rfl
        · exact h.name_eq p hp
      · rcases Keyed.mem_of_mem_insert hp with rfl | hp
        · exact hadmissible
        · exact h.admissible p hp
    · obtain ⟨fault, hfault⟩ := exists_register_eq_error (r := r) hadmissible
      rw [Registry.perform, hfault]
      exact h
  | _ => exact h.of_entities_eq (entities_perform nofun)

/-- **Every run** keeps a registry consistent. -/
theorem isConsistent_run (h : r.IsConsistent) (operations : List Operation) :
    (r.run operations).IsConsistent := by
  induction operations generalizing r with
  | nil => exact h
  | cons operation rest ih => exact ih (h.perform operation)

/-! ## Changes -/

/-- What an operation may change. A registration of an entity changes the entity of this name, or
nothing at all; the other two change one entry of their own collections, and everything else changes
nothing. -/
def Changes (r : Registry) : Operation → Answer → Registry → Prop
  | .register e, answer, next =>
    (e.IsAdmissible ∧ answer = .outcome (.ok ()) ∧ next.hooks = r.hooks ∧ next.exports = r.exports ∧
      ∀ name, next.entity? name = if e.name = name then some e else r.entity? name) ∨
    (¬e.IsAdmissible ∧ (∃ fault, answer = .outcome (.error fault)) ∧ next = r)
  | .registerHook name hook, _, next =>
    next.entities = r.entities ∧ next.exports = r.exports ∧
      ∀ other, next.hook? other = if name = other then some hook else r.hook? other
  | .registerExports name columns, _, next =>
    next.entities = r.entities ∧ next.hooks = r.hooks ∧
      ∀ other, next.exports? other = if name = other then some columns else r.exports? other
  | _, _, next => next = r

/-- **No operation changes more than it may.** -/
theorem perform_changes (r : Registry) (operation : Operation) :
    r.Changes operation (r.perform operation).1 (r.perform operation).2 := by
  cases operation with
  | register e =>
    by_cases hadmissible : e.IsAdmissible
    · rw [perform, register_eq hadmissible]
      refine .inl ⟨hadmissible, rfl, rfl, rfl, fun name => ?_⟩
      exact Keyed.find?_insert e.name name e r.entities
    · obtain ⟨fault, hfault⟩ := exists_register_eq_error (r := r) hadmissible
      rw [perform, hfault]
      exact .inr ⟨hadmissible, ⟨fault, rfl⟩, rfl⟩
  | registerHook name hook =>
    exact ⟨rfl, rfl, fun other => Keyed.find?_insert name other hook r.hooks⟩
  | registerExports name columns =>
    exact ⟨rfl, rfl, fun other => Keyed.find?_insert name other columns r.exports⟩
  | _ => rfl

/-! ## Contents -/

namespace Operation

/-- The entity that the operation puts under a name. -/
def entityAt (name : String) : Operation → Option Entity
  | .register e => if e.name = name ∧ e.IsAdmissible then some e else none
  | _ => none

/-- The custom filter that it puts under a name. -/
def hookAt (name : String) : Operation → Option Hook
  | .registerHook other hook => if other = name then some hook else none
  | _ => none

/-- The export columns that it puts under a name. -/
def exportsAt (name : String) : Operation → Option (List ExportColumn)
  | .registerExports other columns => if other = name then some columns else none
  | _ => none

end Operation

/-- What every operation either puts or leaves is, after a run, what was put last. -/
lemma look_run {α : Type} (look : Registry → Option α) (put : Operation → Option α)
    (hstep : ∀ r operation, look (r.perform operation).2 = (put operation).or (look r))
    (r : Registry) (operations : List Operation) :
    look (r.run operations) = (operations.reverse.findSome? put).or (look r) := by
  induction operations generalizing r with
  | nil => rfl
  | cons operation rest ih =>
    have hrun : r.run (operation :: rest) = (r.perform operation).2.run rest := rfl
    have hlast : [operation].findSome? put = put operation := by
      rw [List.findSome?_cons]
      cases put operation <;> rfl
    rw [hrun, ih, hstep, List.reverse_cons, List.findSome?_append, hlast, Option.or_assoc]

/-- An operation puts an entity under a name or leaves the one that is there. -/
lemma entity?_perform (name : String) (r : Registry) (operation : Operation) :
    (r.perform operation).2.entity? name = (operation.entityAt name).or (r.entity? name) := by
  cases operation with
  | register e =>
    rcases perform_changes r (.register e) with
      ⟨hadmissible, -, -, -, hentity⟩ | ⟨hrefused, -, hsame⟩
    · rw [hentity name, Operation.entityAt]
      by_cases hname : e.name = name
      · rw [if_pos hname, if_pos ⟨hname, hadmissible⟩]
        rfl
      · rw [if_neg hname, if_neg fun h => hname h.1]
        rfl
    · rw [hsame, Operation.entityAt, if_neg fun h => hrefused h.2]
      rfl
  | _ => rfl

/-- An operation changes the custom filters only where it registers one. -/
lemma hook?_perform (name : String) (r : Registry) (operation : Operation) :
    (r.perform operation).2.hook? name = (operation.hookAt name).or (r.hook? name) := by
  cases operation with
  | register e =>
    rcases perform_changes r (.register e) with ⟨-, -, hhooks, -⟩ | ⟨-, -, hsame⟩
    · rw [hook?, hhooks]
      rfl
    · rw [hsame]
      rfl
  | registerHook other hook =>
    rw [(perform_changes r (.registerHook other hook)).2.2 name, Operation.hookAt]
    split <;> rfl
  | _ => rfl

/-- An operation changes the export columns only where it registers some. -/
lemma exports?_perform (name : String) (r : Registry) (operation : Operation) :
    (r.perform operation).2.exports? name = (operation.exportsAt name).or (r.exports? name) := by
  cases operation with
  | register e =>
    rcases perform_changes r (.register e) with ⟨-, -, -, hexports, -⟩ | ⟨-, -, hsame⟩
    · rw [exports?, hexports]
      rfl
    · rw [hsame]
      rfl
  | registerExports other columns =>
    rw [(perform_changes r (.registerExports other columns)).2.2 name, Operation.exportsAt]
    split <;> rfl
  | _ => rfl

/-! ## Names -/

/-- The names of a consistent registry ascend in byte order. -/
lemma IsConsistent.pairwise_entityNames (h : r.IsConsistent) :
    r.entityNames.Pairwise fun a b => Text.bytes a < Text.bytes b := by
  refine List.pairwise_map.mpr (h.ascending.imp_of_mem fun {p q} hp hq hless => ?_)
  have hidentifier : ∀ p ∈ r.entities, IsIdentifier p.1 := by
    intro p hp
    rw [← h.name_eq p hp]
    exact (h.admissible p hp).name.1
  exact (hidentifier p hp).bytes_lt (hidentifier q hq) hless

/-- The names of a registry are those under which entities are found. -/
lemma mem_entityNames_iff {name : String} : name ∈ r.entityNames ↔ ∃ e, r.entity name = .ok e := by
  rw [entityNames, ← not_iff_not, ← Keyed.find?_eq_none_iff, entity, entity?]
  cases Keyed.find? name r.entities <;> simp

/-! ## Runs -/

/-- **What is known of a registry after any run** that began with the empty registry:

* every entity stands under its own name, all names it brings along are safe identifiers, and its
  primary key is declared;
* whatever comes next changes one entry of one collection at most, and a refused entity none;
* under every name there is the entity that was admissible and registered last, the custom filter
  and the export columns that were registered last;
* the names of the entities ascend in byte order, and they are the names under which entities are
  found.

**Proof sketch.** One operation keeps a registry consistent and changes no more than it may,
whatever the registry holds; the rest is induction over the operations. -/
theorem run_keeps_names (operations : List Operation) :
    (∀ name e, (name, e) ∈ (empty.run operations).entities → e.name = name ∧ e.IsAdmissible) ∧
    (∀ operation, (empty.run operations).Changes operation
      ((empty.run operations).perform operation).1 (empty.run (operations ++ [operation]))) ∧
    (∀ name, (empty.run operations).entity? name =
        operations.reverse.findSome? (Operation.entityAt name) ∧
      (empty.run operations).hook? name = operations.reverse.findSome? (Operation.hookAt name) ∧
      (empty.run operations).exports? name =
        operations.reverse.findSome? (Operation.exportsAt name)) ∧
    ((empty.run operations).entityNames.Pairwise fun a b => Text.bytes a < Text.bytes b) ∧
    ∀ name, name ∈ (empty.run operations).entityNames ↔
      ∃ e, (empty.run operations).entity name = .ok e := by
  have hconsistent := isConsistent_run isConsistent_empty operations
  refine ⟨fun name e hmem => ?_, fun operation => ?_, fun name => ⟨?_, ?_, ?_⟩,
    hconsistent.pairwise_entityNames, fun name => mem_entityNames_iff⟩
  · exact ⟨hconsistent.name_eq _ hmem, hconsistent.admissible _ hmem⟩
  · have hnext : empty.run (operations ++ [operation]) =
        ((empty.run operations).perform operation).2 := List.foldl_concat _ _ _ _
    rw [hnext]
    exact perform_changes _ operation
  · rw [look_run (fun r => r.entity? name) (Operation.entityAt name) (entity?_perform name)]
    exact Option.or_none
  · rw [look_run (fun r => r.hook? name) (Operation.hookAt name) (hook?_perform name)]
    exact Option.or_none
  · rw [look_run (fun r => r.exports? name) (Operation.exportsAt name) (exports?_perform name)]
    exact Option.or_none

/-- Keepers are registered, refused, and registered again with other columns, and are given a custom
filter in between. -/
theorem run_keeps_names_keepers :
    let operations : List Operation := [.register Zoo.zoos, .register Zoo.keepers,
      .registerHook "keepers" Hook.trashed, .register { name := "keepers", primaryKey := "key" },
      .register { name := "keepers", columns := [⟨"id", .integer⟩] }]
    (empty.run operations).entityNames = ["keepers", "zoos"] ∧
      (empty.run operations).entity? "keepers" =
        some { name := "keepers", columns := [⟨"id", .integer⟩] } ∧
      (empty.run operations).hook? "keepers" = some Hook.trashed ∧
      ∀ e, ("zoos", e) ∈ (empty.run operations).entities → e.name = "zoos" ∧ e.IsAdmissible := by
  intro operations
  obtain ⟨hnamed, -, hcontents, -⟩ := run_keeps_names operations
  exact ⟨rfl, (hcontents "keepers").1.trans rfl, (hcontents "keepers").2.1.trans rfl,
    fun e => hnamed "zoos" e⟩

end Registry

end DataGrid
