import DataGrid.Proofs.Path.Resolution
import DataGrid.Proofs.Schema.Runs
import Mathlib.Data.List.Nodup

/-!
# Coherent schemas

Which lists of entities make a registry. Entities are put in one by one, each in the place of an
earlier one of its name, and only then the relations are checked against each other. What comes out
is decided by the last entity of each name: the list is accepted exactly when all of its entities
are admissible and every relation of these last ones connects declared columns. Where no name is
given twice, the order of the list plays no role.

In a registry that was made in this way, no relation leads astray.

## Main definitions

* `DataGrid.Entity.last?` — the last entity of a name.
* `DataGrid.Relation.Connects` — a relation leads to an entity, along declared columns.
* `DataGrid.Entity.AreCoherent` — the lists that are accepted.
* `DataGrid.Registry.IsConnected` — what can be relied on when relations are followed.

## Main results

* `DataGrid.Registry.ofEntities_eq_ok_iff` — what makes a registry, and which one.
* `DataGrid.Registry.IsAccepted.isConnected` — relations of an accepted schema can be followed.
* `DataGrid.Registry.ofEntities_exact` — both, with the order of the entities.
-/

namespace DataGrid

/-! ## Lists of entities -/

/-- The last entity of the given name, which is the one that stays. -/
def Entity.last? (name : String) (entities : List Entity) : Option Entity :=
  entities.reverse.find? fun e => e.name = name

/-- A relation of an entity leads to one that is found, and both of its keys are declared, each on
its own side. -/
def Relation.Connects (find? : String → Option Entity) (e : Entity) (relation : Relation) : Prop :=
  ∃ target, find? relation.target = some target ∧ e.Declares relation.localKey ∧
    target.Declares relation.foreignKey

/-- Every entity of a list is admissible by itself, and all relations connect, when only the last
entity of each name counts. -/
structure Entity.AreCoherent (entities : List Entity) : Prop where
  admissible : ∀ e ∈ entities, e.IsAdmissible
  connects : ∀ name e, last? name entities = some e → ∀ relation ∈ e.relations,
    relation.Connects (fun name => last? name entities) e

/-- Of different names each is that of one entity, so the last one is the only one. -/
lemma Entity.last?_eq_some_iff {entities : List Entity} (h : (entities.map Entity.name).Nodup)
    {name : String} {e : Entity} : last? name entities = some e ↔ e ∈ entities ∧ e.name = name := by
  constructor
  · intro hlast
    have hmem : e ∈ entities := List.mem_reverse.mp (List.mem_of_find?_eq_some hlast)
    exact ⟨hmem, by simpa using List.find?_some hlast⟩
  · rintro ⟨he, rfl⟩
    have hsome : (last? e.name entities).isSome := by
      rw [last?, List.find?_isSome]
      exact ⟨e, List.mem_reverse.mpr he, by simp⟩
    obtain ⟨found, hfound⟩ := Option.isSome_iff_exists.mp hsome
    have hmem : found ∈ entities := List.mem_reverse.mp (List.mem_of_find?_eq_some hfound)
    have hname : found.name = e.name := by simpa using List.find?_some hfound
    rw [hfound, List.inj_on_of_nodup_map h hmem he hname]

/-- The order of entities with different names does not matter to what is found. -/
lemma Entity.last?_perm {entities entities' : List Entity} (hperm : entities.Perm entities')
    (h : (entities.map Entity.name).Nodup) (name : String) :
    last? name entities = last? name entities' := by
  have h' : (entities'.map Entity.name).Nodup := (hperm.map Entity.name).nodup_iff.mp h
  ext e
  rw [last?_eq_some_iff h, last?_eq_some_iff h', hperm.mem_iff]

/-- Nor does it matter to whether they are coherent. -/
lemma Entity.AreCoherent.perm {entities entities' : List Entity} (hcoherent : AreCoherent entities)
    (hperm : entities.Perm entities') (h : (entities.map Entity.name).Nodup) :
    AreCoherent entities' := by
  have hsame : (fun name => last? name entities) = fun name => last? name entities' :=
    funext (last?_perm hperm h)
  refine ⟨fun e he => hcoherent.admissible e (hperm.mem_iff.mpr he), fun name e hlast => ?_⟩
  rw [← hsame]
  exact hcoherent.connects name e ((last?_perm hperm h name).trans hlast)

namespace Registry

variable {r : Registry} {e : Entity} {entities entities' : List Entity}

/-! ## Registration -/

/-- The registry of entities that are put in one by one. -/
def filled (r : Registry) (entities : List Entity) : Registry :=
  { r with entities := entities.foldl (fun sorted e => Keyed.insert e.name e sorted) r.entities }

/-- Entities are registered when all of them are admissible, in the order in which they come. -/
lemma registerAll_eq_ok_iff {next : Registry} : r.registerAll entities = .ok next ↔
    (∀ e ∈ entities, e.IsAdmissible) ∧ next = r.filled entities := by
  induction entities generalizing r with
  | nil =>
    rw [registerAll, List.foldlM_nil, pure_eq_ok]
    simp [filled, eq_comm]
  | cons e rest ih =>
    rw [List.forall_mem_cons]
    by_cases hadmissible : e.IsAdmissible
    · have hstep : r.registerAll (e :: rest) =
          registerAll { r with entities := Keyed.insert e.name e r.entities } rest := by
        rw [registerAll, List.foldlM_cons, register_eq hadmissible]
        rfl
      rw [hstep, ih, and_iff_right hadmissible]
      rfl
    · obtain ⟨fault, hfault⟩ := exists_register_eq_error (r := r) hadmissible
      have hstop : r.registerAll (e :: rest) = .error fault := by
        rw [registerAll, List.foldlM_cons, hfault]
        rfl
      simp [hstop, hadmissible]

/-- Under each name there is the last entity that was put in, or what was there before. -/
lemma entity?_filled (r : Registry) (entities : List Entity) (name : String) :
    (r.filled entities).entity? name = (Entity.last? name entities).or (r.entity? name) := by
  induction entities generalizing r with
  | nil => rfl
  | cons e rest ih =>
    have hstep : r.filled (e :: rest) =
        filled { r with entities := Keyed.insert e.name e r.entities } rest := rfl
    rw [hstep, ih, entity?, Keyed.find?_insert, Entity.last?, Entity.last?, List.reverse_cons,
      List.find?_append, Option.or_assoc]
    by_cases hname : e.name = name <;> simp [hname, entity?]

/-- Names ascend in a registry that was filled. -/
lemma ascending_filled (h : Keyed.Ascending r.entities) :
    Keyed.Ascending (r.filled entities).entities := by
  induction entities generalizing r with
  | nil => exact h
  | cons e rest ih => exact ih (r := { r with entities := _ }) (h.insert e.name e)

/-- What is found in a registry filled from the beginning. -/
lemma entity?_filled_empty (entities : List Entity) (name : String) :
    (empty.filled entities).entity? name = Entity.last? name entities := by
  rw [entity?_filled]
  exact Option.or_none

/-- The entities of such a registry are the last ones of each name. -/
lemma mem_entities_filled_empty {name : String} :
    (name, e) ∈ (empty.filled entities).entities ↔ Entity.last? name entities = some e := by
  have hempty : Keyed.Ascending empty.entities := List.Pairwise.nil
  have hkeys : (Keyed.keys (empty.filled entities).entities).Nodup :=
    (ascending_filled hempty).nodup_keys
  rw [← entity?_filled_empty]
  exact ⟨Keyed.find?_of_mem hkeys, Keyed.mem_of_find?⟩

/-- The order of entities with different names does not matter to the registry. -/
lemma filled_empty_perm (hperm : entities.Perm entities') (h : (entities.map Entity.name).Nodup) :
    empty.filled entities = empty.filled entities' := by
  have hentities : (empty.filled entities).entities = (empty.filled entities').entities := by
    have hempty : Keyed.Ascending empty.entities := List.Pairwise.nil
    refine (ascending_filled hempty).ext (ascending_filled hempty) fun name => ?_
    show (empty.filled entities).entity? name = (empty.filled entities').entity? name
    rw [entity?_filled_empty, entity?_filled_empty, Entity.last?_perm hperm h]
  rw [filled, filled, Registry.mk.injEq]
  exact ⟨hentities, rfl, rfl⟩

/-! ## Validation -/

/-- A relation passes its check when it connects. -/
lemma checkRelation_eq_ok_iff {relation : Relation} :
    r.checkRelation e relation = .ok () ↔ relation.Connects r.entity? e := by
  refine ⟨exists_of_checkRelation, ?_⟩
  rintro ⟨target, htarget, hlocal, hforeign⟩
  rw [← Entity.isSome_column?_iff, Option.isSome_iff_ne_none] at hlocal hforeign
  simp [checkRelation, htarget, hlocal, hforeign]

/-- A registry is valid when all relations of all entities connect. -/
lemma validate_eq_ok_iff : r.validate = .ok () ↔
    ∀ name e, (name, e) ∈ r.entities → ∀ relation ∈ e.relations, relation.Connects r.entity? e := by
  simp only [validate, forM_eq_ok_iff, checkRelation_eq_ok_iff, Prod.forall]

/-- **A list makes a registry** exactly when its entities are coherent, and then the one that is
filled with them.

**Proof sketch.** The entities of the filled registry are the last ones of each name
(`mem_entities_filled_empty`), which are also those that relations find in it. -/
theorem ofEntities_eq_ok_iff :
    ofEntities entities = .ok r ↔ Entity.AreCoherent entities ∧ r = empty.filled entities := by
  have hlook : (empty.filled entities).entity? = fun name => Entity.last? name entities :=
    funext (entity?_filled_empty entities)
  have hvalid : (empty.filled entities).validate = .ok () ↔
      ∀ name e, Entity.last? name entities = some e → ∀ relation ∈ e.relations,
        relation.Connects (fun name => Entity.last? name entities) e := by
    rw [validate_eq_ok_iff, hlook]
    simp only [mem_entities_filled_empty]
  constructor
  · intro h
    obtain ⟨next, hnext, h⟩ := bind_eq_ok.mp h
    obtain ⟨hadmissible, rfl⟩ := registerAll_eq_ok_iff.mp hnext
    obtain ⟨_, hchecked, h⟩ := bind_eq_ok.mp h
    exact ⟨⟨hadmissible, hvalid.mp hchecked⟩, (pure_eq_ok.mp h).symm⟩
  · rintro ⟨hcoherent, rfl⟩
    refine bind_eq_ok.mpr ⟨_, registerAll_eq_ok_iff.mpr ⟨hcoherent.admissible, rfl⟩, ?_⟩
    exact bind_eq_ok.mpr ⟨(), hvalid.mpr hcoherent.connects, rfl⟩

/-! ## Following relations -/

/-- Relations can be relied on when they are followed. -/
structure IsConnected (r : Registry) : Prop where
  /-- Each hop of a column id joins columns that are declared on its two sides. -/
  joins : ∀ e id p, r.Has e → r.resolve e id = .ok p →
    ∀ front hop back, p.hops = front ++ hop :: back →
      ∃ source target, r.Route e front source ∧ r.Route e (front ++ [hop]) target ∧
        hop.table = target.table ∧ source.Declares hop.localKey ∧ target.Declares hop.foreignKey
  /-- No relation that the segments of a column id follow has an unknown target. -/
  follows : ∀ e segments, r.Has e → ∃ found, r.follow? e segments = some found
  /-- There are related rows to ask for unless the entity or its relation is unknown. -/
  related : ∀ parent relation key fault, r.related parent relation key = .error fault ↔
    (r.entity? parent = none ∧ fault = .unknownEntity parent) ∨
      ∃ e, r.entity? parent = some e ∧ e.relation? relation = none ∧
        fault = .unknownColumn (parent ++ "." ++ relation)

/-- One more hop of a route. -/
lemma Route.concat {source target : Entity} {relation : Relation} {hops : List Hop}
    (h : r.Route e hops source) (hrelation : source.relation? relation.name = some relation)
    (htarget : r.entity? relation.target = some target) :
    r.Route e (hops ++ [relation.hop target]) target := by
  induction h with
  | here => exact .step hrelation htarget (.here target)
  | step hfirst hnext _ ih => exact .step hfirst hnext (ih hrelation)

/-- Every relation of a registered entity leads to a registered one. -/
lemma IsAccepted.connects (h : r.IsAccepted) (he : r.Has e) {relation : Relation}
    (hrelation : relation ∈ e.relations) : relation.Connects r.entity? e := by
  obtain ⟨entities, accepted, haccepted, hentities⟩ := h
  obtain ⟨name, he⟩ := he
  obtain ⟨hcoherent, rfl⟩ := ofEntities_eq_ok_iff.mp haccepted
  have hlook : r.entity? = fun name => Entity.last? name entities :=
    funext fun name => (entity?_eq_of_entities_eq hentities name).trans
      (entity?_filled_empty entities name)
  rw [hlook] at he ⊢
  exact hcoherent.connects name e he relation hrelation

/-- Segments can be followed from every registered entity.

**Proof sketch.** Induction over the segments, from one registered entity to the next. -/
lemma IsAccepted.exists_follow? (h : r.IsAccepted) (he : r.Has e) (segments : List String) :
    ∃ found, r.follow? e segments = some found := by
  induction segments generalizing e with
  | nil => exact ⟨_, rfl⟩
  | cons segment rest ih =>
    rw [follow?]
    cases hrelation : e.relation? segment with
    | none => exact ⟨_, rfl⟩
    | some relation =>
      obtain ⟨target, htarget, -⟩ := h.connects he (List.mem_of_find?_eq_some hrelation)
      obtain ⟨found, hfound⟩ := ih ⟨_, htarget⟩
      simp only [htarget, hfound]
      exact ⟨_, rfl⟩

/-- What stands between a parent and its related rows: two entities and a relation. -/
lemma related_eq (r : Registry) (parent relation : String) (key : Json) :
    r.related parent relation key =
      match r.entity? parent with
      | none => .error (.unknownEntity parent)
      | some e =>
        match e.relation? relation with
        | none => .error (.unknownColumn (parent ++ "." ++ relation))
        | some link =>
          match r.entity? link.target with
          | none => .error (.unknownEntity link.target)
          | some target => .ok ⟨target, some ⟨link.foreignKey, key⟩⟩ := by
  simp only [related, entity, bind, Except.bind]
  cases r.entity? parent with
  | none => rfl
  | some e =>
    cases hrelation : e.relation? relation with
    | none =>
      simp only [hrelation]
      rfl
    | some link =>
      simp only [hrelation]
      cases r.entity? link.target <;> rfl

/-- **Relations of an accepted schema can be followed**, wherever they lead. -/
theorem IsAccepted.isConnected (h : r.IsAccepted) : r.IsConnected where
  joins := by
    intro e id p he hp front hop back hsplit
    obtain ⟨_, _, hroute, -⟩ := route_of_resolve hp
    obtain ⟨source, relation, target, hfront, hrelation, htarget, rfl⟩ :=
      hroute.exists_relation hsplit
    obtain ⟨hsource, -⟩ := hfront.isDeclared he
    have hmem : relation ∈ source.relations := List.mem_of_find?_eq_some hrelation
    obtain ⟨hlocal, hforeign⟩ := h.declares_keys hsource hmem htarget
    exact ⟨source, target, hfront, hfront.concat hrelation htarget, rfl, hlocal, hforeign⟩
  follows := fun e segments he => h.exists_follow? he segments
  related := by
    intro parent relation key fault
    rw [related_eq]
    cases hparent : r.entity? parent with
    | none => simp [eq_comm]
    | some e =>
      cases hrelation : e.relation? relation with
      | none => simp [hrelation, eq_comm]
      | some link =>
        have hlink : link ∈ e.relations := List.mem_of_find?_eq_some hrelation
        obtain ⟨target, htarget, -⟩ := h.connects ⟨parent, hparent⟩ hlink
        simp [hrelation, htarget]

/-! ## Acceptance -/

/-- **Schemas are accepted exactly when they are coherent.** A list of entities makes a registry if
and only if all of them are admissible and the relations of the last entity of each name connect
declared columns of such entities. The registry has these entities, and when the names are
different, the list in any other order makes the same one or none either. In the registry, with
whatever custom filters and export columns it is given, relations can be relied on. -/
theorem ofEntities_exact (entities : List Entity) :
    ((∃ r, ofEntities entities = .ok r) ↔ Entity.AreCoherent entities) ∧
      (∀ entities', entities.Perm entities' → (entities.map Entity.name).Nodup →
        ∀ r, ofEntities entities = .ok r ↔ ofEntities entities' = .ok r) ∧
      ∀ r, ofEntities entities = .ok r →
        (∀ name, r.entity? name = Entity.last? name entities) ∧
          ∀ next : Registry, next.entities = r.entities → next.IsConnected := by
  refine ⟨?_, ?_, ?_⟩
  · simp [ofEntities_eq_ok_iff]
  · intro entities' hperm hnames r
    have hnames' : (entities'.map Entity.name).Nodup := (hperm.map Entity.name).nodup_iff.mp hnames
    rw [ofEntities_eq_ok_iff, ofEntities_eq_ok_iff, filled_empty_perm hperm hnames]
    exact and_congr_left fun _ =>
      ⟨fun h => h.perm hperm hnames, fun h => h.perm hperm.symm hnames'⟩
  · intro r hr
    obtain ⟨-, rfl⟩ := ofEntities_eq_ok_iff.mp hr
    exact ⟨entity?_filled_empty entities,
      fun next hnext => IsAccepted.isConnected ⟨entities, _, hr, hnext⟩⟩

/-- Flamingos and keepers lead to each other, so one of them comes before what it leads to. In the
reverse order they are accepted as well. -/
theorem ofEntities_exact_zoo :
    ∃ r, ofEntities Zoo.entities = .ok r ∧ ofEntities Zoo.entities.reverse = .ok r ∧
      Entity.AreCoherent Zoo.entities ∧ r.entity? "keepers" = some Zoo.keepers ∧ r.IsConnected := by
  obtain ⟨r, hr⟩ : ∃ r, ofEntities Zoo.entities = .ok r := ⟨_, rfl⟩
  obtain ⟨haccepted, horder, hmade⟩ := ofEntities_exact Zoo.entities
  obtain ⟨hfound, hconnected⟩ := hmade r hr
  have hperm : Zoo.entities.Perm Zoo.entities.reverse := (List.reverse_perm _).symm
  exact ⟨r, hr, (horder _ hperm (by decide) r).mp hr, haccepted.mp ⟨r, hr⟩, hfound "keepers",
    hconnected r rfl⟩

end Registry

end DataGrid
