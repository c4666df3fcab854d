import DataGrid.Proofs.Path.Routes
import DataGrid.Schema.Zoo

/-!
# Resolution of column ids

Which column ids can be resolved, and what they are resolved to. Nothing of a column id is lost: it
can be spelled again from the path that it stands for, so that no two column ids have the same path.

## Main definitions

* `DataGrid.Registry.Addresses` — the column ids that can be resolved.
* `DataGrid.Registry.Spells` — how a path and the column id it comes from belong together.

## Main results

* `DataGrid.Registry.Follows.prefix_of_route` — relations are followed along the longest prefix.
* `DataGrid.Registry.resolves_exactly` — a column id is resolved if it can be, and to a path that
  spells it.

## Implementation notes

Among declarations of the same name, the first one counts, for relations and for columns. Relations
may lead back to entities that were left, so that a registry can have routes of any length. The
proofs go by induction on the route or on the segments, never on the entities.
-/

namespace DataGrid

/-! ## Longest prefixes -/

namespace Registry

variable {r : Registry} {e reached : Entity} {hops : List Hop}

/-- **Relations are followed along the longest prefix** of the segments: any other hops with names
in front of them are a part of those that are followed.

**Proof sketch.** Induction on the other route. Its first relation is looked up by the first
segment, as is the first one that is followed, so that both are the same. If none is followed, the
tail begins with this relation, which is where following would not have stopped. -/
theorem Follows.prefix_of_route {segments tail : List String}
    (h : r.Follows e segments hops reached tail) {others : List Hop} {end' : Entity}
    (hroute : r.Route e others end') (hbegins : others.map Hop.name <+: segments) :
    others <+: hops := by
  induction hroute generalizing segments hops with
  | here => exact List.nil_prefix
  | @step e target end' relation others hrelation htarget _ ih =>
    obtain ⟨rfl, hfollowed, hstops⟩ := h
    cases hfollowed with
    | here =>
      obtain ⟨back, hback⟩ := hbegins
      have hhead : tail.head? = some relation.name := by
        rw [← List.nil_append tail, ← List.map_nil, ← hback]
        rfl
      rw [hstops relation.name hhead] at hrelation
      cases hrelation
    | @step _ target' _ relation' hops hrelation' htarget' hrest =>
      obtain ⟨hname, hnames⟩ := List.cons_prefix_cons.mp hbegins
      have hsame : relation = relation' := by
        have hlookup : relation.name = relation'.name := hname
        rw [hlookup, hrelation'] at hrelation
        exact (Option.some.inj hrelation).symm
      subst hsame
      rw [htarget', Option.some.injEq] at htarget
      subst htarget
      exact List.cons_prefix_cons.mpr ⟨rfl, ih ⟨rfl, hrest, hstops⟩ hnames⟩

/-- The hops before a hop lead to the entity that declares its relation. -/
lemma Route.exists_relation (h : r.Route e hops reached) {front back : List Hop} {hop : Hop}
    (hsplit : hops = front ++ hop :: back) :
    ∃ source relation target, r.Route e front source ∧
      source.relation? relation.name = some relation ∧
      r.entity? relation.target = some target ∧ hop = relation.hop target := by
  induction h generalizing front with
  | here => simp at hsplit
  | @step e target reached relation hops hrelation htarget hrest ih =>
    cases front with
    | nil =>
      obtain ⟨rfl, -⟩ := List.cons.inj hsplit
      exact ⟨e, relation, target, .here e, hrelation, htarget, rfl⟩
    | cons first front =>
      obtain ⟨rfl, hbehind⟩ := List.cons.inj hsplit
      obtain ⟨source, relation', target', hfront, hfound⟩ := ih hbehind
      exact ⟨source, relation', target', .step hrelation htarget hfront, hfound⟩

end Registry

/-! ## Column ids that can be resolved -/

/-- The segments behind the relations name some column if there are any, and the first of them is a
JSON column or all of them together are a column. -/
lemma Entity.exists_names_iff {e : Entity} {tail : List String} :
    (∃ c keys, e.Names tail c keys) ↔ ∃ first rest, tail = first :: rest ∧
      ((∃ c, e.column? first = some c ∧ c.kind = .json) ∨
        ∃ c, e.column? (Text.join '.' (first :: rest)) = some c) := by
  constructor
  · rintro ⟨c, keys, hnames⟩
    cases hnames with
    | @document _ first keys hfirst hkind =>
      exact ⟨first, keys, rfl, .inl ⟨c, hfirst, hkind⟩⟩
    | @whole _ first rest _ hwhole => exact ⟨first, rest, rfl, .inr ⟨c, hwhole⟩⟩
  · rintro ⟨first, rest, rfl, hcolumn⟩
    by_cases hjson : ∃ c, e.column? first = some c ∧ c.kind = .json
    · obtain ⟨c, hfirst, hkind⟩ := hjson
      exact ⟨c, rest, .document hfirst hkind⟩
    · obtain ⟨c, hwhole⟩ := hcolumn.resolve_left hjson
      exact ⟨c, [], .whole (fun d hd hkind => hjson ⟨d, hd, hkind⟩) hwhole⟩

/-- The segments behind the relations can be spelled again from the column and the keys. -/
lemma Entity.Names.join_append {e : Entity} {tail keys : List String} {c : Column}
    (h : e.Names tail c keys) (front : List String) :
    Text.join '.' (front ++ c.name :: keys) = Text.join '.' (front ++ tail) := by
  cases h with
  | document hfirst _ => rw [name_of_column? hfirst]
  | @whole _ first rest _ hwhole =>
    rw [name_of_column? hwhole]
    exact Text.join_append_join '.' front (List.cons_ne_nil first rest)

/-- Keys are only looked for in JSON columns. -/
lemma Entity.Names.kind_eq {e : Entity} {tail keys : List String} {c : Column}
    (h : e.Names tail c keys) (hkeys : keys ≠ []) : c.kind = .json := by
  cases h with
  | document _ hkind => exact hkind
  | whole => exact absurd rfl hkeys

namespace Registry

/-- A column id can be resolved: none of its segments is empty, and behind those that follow
relations there is a JSON column, or a column of the name that all segments left make together. -/
structure Addresses (r : Registry) (e : Entity) (id : String) : Prop where
  segments_ne : ∀ segment ∈ Text.segments '.' id, segment ≠ ""
  column : ∃ hops reached first rest,
    r.Follows e (Text.segments '.' id) hops reached (first :: rest) ∧
      ((∃ c, reached.column? first = some c ∧ c.kind = .json) ∨
        ∃ c, reached.column? (Text.join '.' (first :: rest)) = some c)

/-- A path is that of a column id: it goes along declared relations, as far as the column id follows
any, to a declared column. -/
structure Spells (r : Registry) (e : Entity) (id : String) (p : ColumnPath) : Prop where
  id_eq : p.id = id
  /-- Each hop is a copy of a relation of the entity reached so far, with the table and the deletion
  mark of its target. -/
  hop : ∀ front hop back, p.hops = front ++ hop :: back → ∃ source relation target,
    r.Route e front source ∧ relation ∈ source.relations ∧
      r.entity? relation.target = some target ∧
      hop = ⟨relation.name, target.table, relation.kind, relation.localKey, relation.foreignKey,
        target.softDelete⟩
  /-- No other relations can be followed for longer. -/
  longest : ∀ hops reached, r.Route e hops reached →
    hops.map Hop.name <+: Text.segments '.' id → hops <+: p.hops
  /-- The column is the one that the entity at the end declares under its name. -/
  column : ∃ reached c, r.Route e p.hops reached ∧ c ∈ reached.columns ∧
    reached.column? p.leaf = some c ∧ c.name = p.leaf ∧ c.kind = p.kind
  kind_eq : p.keys ≠ [] → p.kind = .json
  /-- Relations, column and keys make the column id again. -/
  join_eq : Text.join '.' (p.hops.map Hop.name ++ p.leaf :: p.keys) = id

variable {r : Registry} {e : Entity} {id : String} {p : ColumnPath}

/-- A column id that can be resolved is resolved. -/
lemma exists_resolve_iff : (∃ p, r.resolve e id = .ok p) ↔ r.Addresses e id := by
  constructor
  · rintro ⟨p, h⟩
    obtain ⟨hsegments, hops, reached, tail, c, keys, hfollows, hnames, -⟩ :=
      resolve_eq_ok_iff.mp h
    obtain ⟨first, rest, rfl, hcolumn⟩ := Entity.exists_names_iff.mp ⟨c, keys, hnames⟩
    exact ⟨hsegments, hops, reached, first, rest, hfollows, hcolumn⟩
  · rintro ⟨hsegments, hops, reached, first, rest, hfollows, hcolumn⟩
    obtain ⟨c, keys, hnames⟩ := Entity.exists_names_iff.mpr ⟨first, rest, rfl, hcolumn⟩
    exact ⟨_, resolve_eq_ok_iff.mpr
      ⟨hsegments, hops, reached, first :: rest, c, keys, hfollows, hnames, rfl⟩⟩

/-- A column id that is not resolved is reported as it is. -/
lemma eq_unknownColumn_of_resolve {fault : Fault} (h : r.resolve e id = .error fault) :
    fault = .unknownColumn id := by
  unfold resolve at h
  split at h
  · cases h
  · exact (Except.error.inj h).symm

/-- A column id is resolved to a path that spells it. -/
lemma spells_of_resolve (h : r.resolve e id = .ok p) : r.Spells e id p := by
  obtain ⟨-, hops, reached, tail, c, keys, hfollows, hnames, rfl⟩ := resolve_eq_ok_iff.mp h
  refine ⟨rfl, ?_, ?_, ?_, hnames.kind_eq, ?_⟩
  · intro front hop back hsplit
    obtain ⟨source, relation, target, hfront, hrelation, htarget, rfl⟩ :=
      hfollows.route.exists_relation hsplit
    exact ⟨source, relation, target, hfront, List.mem_of_find?_eq_some hrelation, htarget, rfl⟩
  · intro others end' hroute hbegins
    exact hfollows.prefix_of_route hroute hbegins
  · exact ⟨reached, c, hfollows.route, List.mem_of_find?_eq_some hnames.column?, hnames.column?,
      rfl, rfl⟩
  · calc Text.join '.' (hops.map Hop.name ++ c.name :: keys)
        = Text.join '.' (hops.map Hop.name ++ tail) := hnames.join_append _
      _ = Text.join '.' (Text.segments '.' id) := by rw [hfollows.segments_eq]
      _ = id := Text.join_segments '.' id

/-- **Column ids are resolved exactly.** A column id is resolved if it can be, and reported as it is
otherwise. The path that it is resolved to spells it, and is that of no other column id, wherever
this one starts.

**Proof sketch.** What a column id stands for is known (`resolve_eq_ok_iff`). A path spells only one
column id, since it is made of the names of its relations, its column and its keys. -/
theorem resolves_exactly (r : Registry) (e : Entity) (id : String) :
    ((∃ p, r.resolve e id = .ok p) ↔ r.Addresses e id) ∧
      (∀ fault, r.resolve e id = .error fault → fault = .unknownColumn id) ∧
      ∀ p, r.resolve e id = .ok p → r.Spells e id p ∧
        ∀ e' id' p', r.resolve e' id' = .ok p' →
          p'.hops = p.hops → p'.leaf = p.leaf → p'.keys = p.keys → id' = id := by
  refine ⟨exists_resolve_iff, fun fault => eq_unknownColumn_of_resolve, fun p h => ?_⟩
  have hspells := spells_of_resolve h
  refine ⟨hspells, fun e' id' p' h' hhops hleaf hkeys => ?_⟩
  have hspells' := spells_of_resolve h'
  rw [← hspells.join_eq, ← hspells'.join_eq, hhops, hleaf, hkeys]

/-- A column behind two relations, and keys inside a document, are spelled as they were given. -/
theorem resolves_exactly_flamingos :
    ∃ r near inside, Zoo.registry = .ok r ∧
      r.resolve Zoo.flamingos "keeper.zoo.name" = .ok near ∧
      r.Spells Zoo.flamingos "keeper.zoo.name" near ∧
      r.resolve Zoo.flamingos "custom_properties.nature.mood" = .ok inside ∧
      r.Spells Zoo.flamingos "custom_properties.nature.mood" inside ∧
      inside.keys = ["nature", "mood"] :=
  ⟨_, _, _, rfl, rfl, ((resolves_exactly _ _ _).2.2 _ rfl).1, rfl,
    ((resolves_exactly _ _ _).2.2 _ rfl).1, rfl⟩

end Registry

end DataGrid
