import DataGrid.Path.Basic
import Mathlib.Tactic.Lemma

/-!
# Routes through relations

A column id is resolved segment by segment. What it stands for is a route along declared relations,
from the entity it starts at to the one that is reached, and a declared column there. Relations are
looked up by name, so the route is decided by where it starts and by the names along it.

## Main definitions

* `DataGrid.Registry.Route` — hops that lead from one entity to another.
* `DataGrid.Registry.Follows`, `DataGrid.Entity.Names` — what the segments of a column id mean.
* `DataGrid.labelAlong` — the name under which the table at the end of hops is joined.

## Main results

* `DataGrid.Registry.Route.eq_of_route` — hops lead to one entity only.
* `DataGrid.Registry.resolve_eq_ok_iff` — what a column id stands for.
* `DataGrid.Registry.route_of_resolve` — it is a route to an entity that declares its column.
-/

namespace DataGrid

/-! ## Routes -/

/-- The hops lead from one entity to another, each along a relation of the entity reached so far to
the registered target of the relation. -/
inductive Registry.Route (r : Registry) : Entity → List Hop → Entity → Prop
  | here (e : Entity) : r.Route e [] e
  | step {e target reached : Entity} {relation : Relation} {hops : List Hop} :
    e.relation? relation.name = some relation → r.entity? relation.target = some target →
    r.Route target hops reached → r.Route e (relation.hop target :: hops) reached

/-- The name under which the table at the end of hops is joined, when they start at the table called
`label`. -/
def labelAlong (label : String) (hops : List Hop) : String :=
  hops.foldl (fun label h => h.label label) label

namespace Registry

variable {r : Registry}

/-- Hops lead to one entity only.

**Proof sketch.** Induction on the route. The relation of a hop is found by the name of the hop. -/
theorem Route.eq_of_route {e reached reached' : Entity} {hops : List Hop}
    (h : r.Route e hops reached) (h' : r.Route e hops reached') : reached = reached' := by
  induction h with
  | here e =>
    cases h'
    rfl
  | @step e target reached relation rest hrelation htarget _ ih =>
    generalize hhops : relation.hop target :: rest = hops at h'
    cases h' with
    | here => cases hhops
    | @step _ target' _ relation' rest' hrelation' htarget' hroute' =>
      obtain ⟨hhop, hrest⟩ := List.cons.inj hhops
      have hname : relation.name = relation'.name := congrArg Hop.name hhop
      rw [hname, hrelation', Option.some.injEq] at hrelation
      rw [← hrelation, htarget', Option.some.injEq] at htarget
      exact ih (htarget ▸ hrest ▸ hroute')

end Registry

/-! ## What the segments of a column id mean -/

/-- Segments are followed along relations as far as there are any: they are the names of the hops
and then those of the tail, which does not begin with a relation of the entity that is reached. -/
structure Registry.Follows (r : Registry) (e : Entity) (segments : List String) (hops : List Hop)
    (reached : Entity) (tail : List String) : Prop where
  segments_eq : segments = hops.map Hop.name ++ tail
  route : r.Route e hops reached
  stops : ∀ segment, tail.head? = some segment → reached.relation? segment = none

/-- The segments behind the relations name a column of an entity, with keys inside it. -/
inductive Entity.Names (e : Entity) : List String → Column → List String → Prop
  /-- A JSON column takes all segments behind it for keys. -/
  | document {c : Column} {first : String} {keys : List String} :
    e.column? first = some c → c.kind = .json → e.Names (first :: keys) c keys
  /-- Otherwise the segments are the name of a column as a whole. -/
  | whole {c : Column} {first : String} {rest : List String} :
    (∀ d, e.column? first = some d → d.kind ≠ .json) →
    e.column? (Text.join '.' (first :: rest)) = some c → e.Names (first :: rest) c []

/-- A column is called by the name that it is found by. -/
lemma Entity.name_of_column? {e : Entity} {name : String} {c : Column}
    (h : e.column? name = some c) : c.name = name := by
  simpa using List.find?_some h

/-- A relation is called by the name that it is found by. -/
lemma Entity.name_of_relation? {e : Entity} {name : String} {relation : Relation}
    (h : e.relation? name = some relation) : relation.name = name := by
  simpa using List.find?_some h

/-- What the segments name is a declared column, the first of its name. -/
lemma Entity.Names.column? {e : Entity} {tail keys : List String} {c : Column}
    (h : e.Names tail c keys) : e.column? c.name = some c := by
  cases h with
  | document hfirst _ => exact (name_of_column? hfirst).symm ▸ hfirst
  | whole _ hwhole => exact (name_of_column? hwhole).symm ▸ hwhole

/-- A column is found behind the relations exactly if the segments there name it. -/
lemma Entity.leaf?_eq_some_iff {e : Entity} {tail keys : List String} {c : Column} :
    e.leaf? tail = some (c, keys) ↔ e.Names tail c keys := by
  constructor
  · intro h
    unfold leaf? at h
    split at h
    · cases h
    · next first rest =>
      dsimp only at h
      have hwhole : (∀ d, e.column? first = some d → d.kind ≠ .json) →
          ((e.column? (Text.join '.' (first :: rest))).map fun c => (c, ([] : List String))) =
            some (c, keys) → e.Names (first :: rest) c keys := by
        intro hkind hmap
        obtain ⟨found, hfound, heq⟩ := Option.map_eq_some_iff.mp hmap
        obtain ⟨rfl, rfl⟩ := Prod.mk.inj heq
        exact .whole hkind hfound
      split at h
      · next d hd =>
        split at h
        · next hkind =>
          obtain ⟨rfl, rfl⟩ := Prod.mk.inj (Option.some.inj h)
          exact .document hd hkind
        · next hkind =>
          exact hwhole (fun d' hd' => Option.some.inj (hd.symm.trans hd') ▸ hkind) h
      · next hnone => exact hwhole (fun d hd => nomatch hnone.symm.trans hd) h
  · intro h
    cases h with
    | document hfirst hkind => simp only [leaf?, hfirst, if_pos hkind]
    | @whole _ first rest hkind hfound =>
      simp only [leaf?, hfound, Option.map_some]
      cases hfirst : e.column? first with
      | none => rfl
      | some d => exact if_neg (hkind d hfirst)

namespace Registry

variable {r : Registry}

/-- Relations are followed along a route. -/
lemma follows_of_follow? {e reached : Entity} {segments tail : List String} {hops : List Hop}
    (h : r.follow? e segments = some (hops, reached, tail)) :
    r.Follows e segments hops reached tail := by
  induction segments generalizing e hops reached tail with
  | nil =>
    rw [follow?, Option.some.injEq, Prod.mk.injEq, Prod.mk.injEq] at h
    obtain ⟨rfl, rfl, rfl⟩ := h
    exact ⟨rfl, .here e, nofun⟩
  | cons segment rest ih =>
    rw [follow?] at h
    split at h
    · next hnone =>
      rw [Option.some.injEq, Prod.mk.injEq, Prod.mk.injEq] at h
      obtain ⟨rfl, rfl, rfl⟩ := h
      exact ⟨rfl, .here e, fun _ hhead => Option.some.inj hhead ▸ hnone⟩
    · next relation hrelation =>
      split at h
      · cases h
      · next target htarget =>
        split at h
        · cases h
        · next hops' reached' tail' hrest =>
          rw [Option.some.injEq, Prod.mk.injEq, Prod.mk.injEq] at h
          obtain ⟨rfl, rfl, rfl⟩ := h
          obtain ⟨hsegments, hroute, hstops⟩ := ih hrest
          have hname : relation.name = segment := Entity.name_of_relation? hrelation
          refine ⟨?_, .step (hname.symm ▸ hrelation) htarget hroute, hstops⟩
          rw [hsegments, ← hname]
          rfl

/-- Whatever can be followed is followed. -/
lemma Follows.follow?_eq {e reached : Entity} {segments tail : List String} {hops : List Hop}
    (h : r.Follows e segments hops reached tail) :
    r.follow? e segments = some (hops, reached, tail) := by
  obtain ⟨rfl, hroute, hstops⟩ := h
  induction hroute with
  | here e =>
    cases tail with
    | nil => rfl
    | cons segment rest => simp only [List.map_nil, List.nil_append, follow?, hstops segment rfl]
  | @step e target reached relation hops hrelation htarget _ ih =>
    have hname : (relation.hop target).name = relation.name := rfl
    simp only [List.map_cons, List.cons_append, hname, follow?, hrelation, htarget, ih hstops]

/-- **What a column id stands for**: relations are followed as far as there are any, and the rest
names a column of the entity that is reached. -/
theorem resolve_eq_ok_iff {e : Entity} {id : String} {p : ColumnPath} :
    r.resolve e id = .ok p ↔ (∀ segment ∈ Text.segments '.' id, segment ≠ "") ∧
      ∃ hops reached tail c keys, r.Follows e (Text.segments '.' id) hops reached tail ∧
        reached.Names tail c keys ∧ p = ⟨id, hops, c.name, keys, c.kind⟩ := by
  have hempty : (Text.segments '.' id).any String.isEmpty = true ↔
      ¬∀ segment ∈ Text.segments '.' id, segment ≠ "" := by
    simp [List.any_eq_true]
  constructor
  · intro h
    unfold resolve at h
    split at h
    · next found hfound =>
      obtain rfl := Except.ok.inj h
      unfold path? at hfound
      dsimp only at hfound
      split at hfound
      · cases hfound
      · next hsegments =>
        rw [hempty, Decidable.not_not] at hsegments
        split at hfound
        · cases hfound
        · next hops reached tail hfollow =>
          split at hfound
          · cases hfound
          · next c keys hleaf =>
            exact ⟨hsegments, hops, reached, tail, c, keys, follows_of_follow? hfollow,
              Entity.leaf?_eq_some_iff.mp hleaf, (Option.some.inj hfound).symm⟩
    · cases h
  · rintro ⟨hsegments, hops, reached, tail, c, keys, hfollows, hnames, rfl⟩
    have hnone : ¬(Text.segments '.' id).any String.isEmpty = true :=
      fun hany => hempty.mp hany hsegments
    simp only [resolve, path?, if_neg hnone, hfollows.follow?_eq,
      Entity.leaf?_eq_some_iff.mpr hnames]

/-- **A column id is a route** to an entity that declares its column. -/
theorem route_of_resolve {e : Entity} {id : String} {p : ColumnPath} (h : r.resolve e id = .ok p) :
    ∃ reached c, r.Route e p.hops reached ∧ c ∈ reached.columns ∧ p.leaf = c.name := by
  obtain ⟨-, hops, reached, tail, c, keys, hfollows, hnames, rfl⟩ := resolve_eq_ok_iff.mp h
  exact ⟨reached, c, hfollows.route, List.mem_of_find?_eq_some hnames.column?, rfl⟩

end Registry

end DataGrid
