import DataGrid.Proofs.Path.Resolution
import DataGrid.Proofs.Schema.Accepted

/-!
# Addressable columns

A declared column has a column id: its name, with the names of relations in front if it is that of
another entity. Names of an accepted schema have no dots in them, so that the segments of the column
id are these names again. The column id means the column unless another declaration comes before it:
a relation of the same name, which is followed instead, or a column of the same name that was
declared before.

## Main results

* `DataGrid.Registry.IsAccepted.resolve_route_iff` — when a column is found at the end of a route.
* `DataGrid.Registry.declared_addressable` — the first declaration of a name can be addressed, on
  its own entity and from any other that has a route to it.

## Implementation notes

Nothing that registration checks rules out that a relation and a column, two relations, or two
columns of an entity have the same name.
-/

namespace DataGrid

/-! ## Names without dots -/

/-- There are no dots in an identifier. -/
lemma IsIdentifier.dot_not_mem {name : String} (h : IsIdentifier name) : '.' ∉ name.toList := by
  obtain ⟨first, rest, hname, hfirst, hrest⟩ := h
  rw [hname, List.mem_cons, not_or]
  constructor
  · rintro rfl
    exact absurd hfirst (by decide)
  · intro hdot
    exact absurd (hrest '.' hdot) (by decide)

/-- An identifier is not empty. -/
lemma IsIdentifier.ne_empty {name : String} (h : IsIdentifier name) : name ≠ "" := by
  rintro rfl
  obtain ⟨first, rest, hname, -⟩ := h
  cases hname

namespace Registry

variable {r : Registry} {e reached : Entity} {hops : List Hop} {c : Column}

/-- The names of the hops of a route, and that of a column at its end, are identifiers. -/
lemma IsAccepted.isIdentifier_of_route (haccepted : r.IsAccepted) (he : r.Has e)
    (hroute : r.Route e hops reached) (hc : c ∈ reached.columns) :
    ∀ name ∈ hops.map Hop.name ++ [c.name], IsIdentifier name := by
  have hsafe : ∀ e, r.Has e → e.IsSafe :=
    fun e he => Entity.isSafe_of_check (haccepted.check_eq_ok he)
  obtain ⟨hreached, hdeclared⟩ := hroute.isDeclared he
  intro name hname
  rcases List.mem_append.mp hname with hhop | hleaf
  · obtain ⟨hop, hmem, rfl⟩ := List.mem_map.mp hhop
    obtain ⟨source, relation, target, hsource, hrelation, -, rfl⟩ := hdeclared hop hmem
    exact ((hsafe source hsource).relations relation hrelation).1
  · rw [List.mem_singleton.mp hleaf]
    exact (hsafe reached hreached).columns c hc

/-- A single segment names a column if the column is the first of this name. -/
lemma names_singleton (hcolumn : e.column? c.name = some c) : e.Names [c.name] c [] := by
  by_cases hkind : c.kind = .json
  · exact .document hcolumn hkind
  · refine .whole (fun d hd => ?_) ?_
    · rw [hcolumn, Option.some.injEq] at hd
      rwa [← hd]
    · rw [Text.join_singleton]
      exact hcolumn

/-- **A column at the end of a route** is what the names along the route and its own stand for, if
and only if no relation there has its name and it is the first column that has it.

**Proof sketch.** The segments of the column id are these names. Relations are followed along the
route, which ends in one entity only (`Route.eq_of_route`), and one segment is left for the column.
-/
theorem IsAccepted.resolve_route_iff (haccepted : r.IsAccepted) (he : r.Has e)
    (hroute : r.Route e hops reached) (hc : c ∈ reached.columns) {id : String}
    (hid : id = Text.join '.' (hops.map Hop.name ++ [c.name])) :
    r.resolve e id = .ok ⟨id, hops, c.name, [], c.kind⟩ ↔
      reached.relation? c.name = none ∧ reached.column? c.name = some c := by
  have hnames := haccepted.isIdentifier_of_route he hroute hc
  have hsegments : Text.segments '.' id = hops.map Hop.name ++ [c.name] := by
    rw [hid]
    exact Text.segments_join '.' (by simp) fun name hname => (hnames name hname).dot_not_mem
  rw [resolve_eq_ok_iff, hsegments]
  constructor
  · rintro ⟨-, hops', reached', tail, d, keys, hfollows, hleaf, hpath⟩
    obtain ⟨-, rfl, hname, rfl, hkind⟩ := ColumnPath.mk.inj hpath
    obtain rfl : c = d := congrArg₂ Column.mk hname hkind
    obtain rfl : tail = [c.name] := List.append_cancel_left hfollows.segments_eq.symm
    obtain rfl := hroute.eq_of_route hfollows.route
    exact ⟨hfollows.stops c.name rfl, hleaf.column?⟩
  · rintro ⟨hrelation, hcolumn⟩
    have hstops : ∀ segment, [c.name].head? = some segment → reached.relation? segment = none := by
      intro segment hsegment
      obtain rfl := Option.some.inj hsegment
      exact hrelation
    exact ⟨fun name hname => (hnames name hname).ne_empty, hops, reached, [c.name], c, [],
      ⟨rfl, hroute, hstops⟩, names_singleton hcolumn, rfl⟩

/-- **Declared columns can be addressed.** In an accepted schema, the first column of a name is what
its name stands for, unless it is the name of a relation as well. From other entities it is what its
name stands for behind the names of the relations that lead to it. -/
theorem declared_addressable (haccepted : r.IsAccepted) (he : r.Has e) :
    (∀ c ∈ e.columns,
      (r.resolve e c.name = .ok ⟨c.name, [], c.name, [], c.kind⟩ ↔
        e.relation? c.name = none ∧ e.column? c.name = some c)) ∧
      ∀ hops reached, r.Route e hops reached → ∀ c ∈ reached.columns,
        (r.resolve e (Text.join '.' (hops.map Hop.name ++ [c.name])) =
            .ok ⟨Text.join '.' (hops.map Hop.name ++ [c.name]), hops, c.name, [], c.kind⟩ ↔
          reached.relation? c.name = none ∧ reached.column? c.name = some c) := by
  refine ⟨fun c hc => ?_, fun hops reached hroute c hc => ?_⟩
  · exact haccepted.resolve_route_iff he (.here e) hc (Text.join_singleton '.' c.name).symm
  · exact haccepted.resolve_route_iff he hroute hc rfl

/-- The name of a zoo is addressed from flamingos through their keeper. -/
theorem declared_addressable_flamingos :
    ∃ r, Zoo.registry = .ok r ∧ r.IsAccepted ∧ r.Has Zoo.flamingos ∧
      ∃ hops, r.Route Zoo.flamingos hops Zoo.zoos ∧
        r.resolve Zoo.flamingos "keeper.zoo.name" =
          .ok ⟨"keeper.zoo.name", hops, "name", [], .text⟩ := by
  have haccepted : ∀ r, Zoo.registry = .ok r → r.IsAccepted := fun _ => isAccepted_of_ofEntities
  have hroute : ∀ r, Zoo.registry = .ok r → r.Route Zoo.flamingos
      [Relation.hop (.belongingTo "keeper" "keepers" "keeper_id") Zoo.keepers,
        Relation.hop (.belongingTo "zoo" "zoos" "zoo_id") Zoo.zoos] Zoo.zoos := by
    rintro r hr
    obtain rfl := Except.ok.inj hr
    exact .step rfl rfl (.step rfl rfl (.here Zoo.zoos))
  refine ⟨_, rfl, haccepted _ rfl, ⟨"flamingos", rfl⟩, _, hroute _ rfl, ?_⟩
  have haddressable := (declared_addressable (haccepted _ rfl) ⟨"flamingos", rfl⟩).2 _ Zoo.zoos
    (hroute _ rfl) ⟨"name", .text⟩ (by decide)
  exact haddressable.mpr ⟨rfl, rfl⟩

end Registry

/-! ## Names that are declared twice -/

/-- Cages. -/
def Zoo.cages : Entity where
  name := "cages"
  columns := [⟨"id", .integer⟩, ⟨"size", .integer⟩]

/-- Parrots, with a relation that is called like the column it goes along, with two columns of one
name, and with two relations of one name. -/
def Zoo.parrots : Entity where
  name := "parrots"
  columns := [⟨"id", .integer⟩, ⟨"cage", .integer⟩, ⟨"note", .text⟩, ⟨"note", .json⟩]
  relations := [
    .belongingTo "cage" "cages" "cage",
    .belongingTo "mate" "parrots" "id",
    .belongingTo "mate" "cages" "cage"]

/-- The schema of parrots is accepted. The column behind the relation, the second of the two columns
and what is declared behind the second of the two relations have no column id. -/
theorem Registry.parrots_not_addressable :
    ∃ r, Registry.ofEntities [Zoo.cages, Zoo.parrots] = .ok r ∧ r.Has Zoo.parrots ∧
      (⟨"cage", .integer⟩ ∈ Zoo.parrots.columns ∧
        r.resolve Zoo.parrots "cage" = .error (.unknownColumn "cage")) ∧
      (⟨"note", .json⟩ ∈ Zoo.parrots.columns ∧
        r.resolve Zoo.parrots "note" = .ok ⟨"note", [], "note", [], .text⟩) ∧
      ∃ mate ∈ Zoo.parrots.relations, mate.name = "mate" ∧
        r.entity? mate.target = some Zoo.cages ∧ ⟨"size", .integer⟩ ∈ Zoo.cages.columns ∧
        r.resolve Zoo.parrots "mate.size" = .error (.unknownColumn "mate.size") :=
  ⟨_, rfl, ⟨"parrots", rfl⟩, ⟨by decide, rfl⟩, ⟨by decide, rfl⟩,
    .belongingTo "mate" "cages" "cage", by decide, rfl, rfl, by decide, rfl⟩

end DataGrid
