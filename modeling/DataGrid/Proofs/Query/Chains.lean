import DataGrid.Proofs.Path.Chains
import DataGrid.Proofs.Query.Admission

/-!
# The ways of following relations

A query follows relations in five ways: by existence tests in filters, by the negation of one for
missing values, by the lookup of a sort key, by left joins in value listings, and by the key of a
parent. All of them are about the same rows, the live chains behind a row of the subject.

## Main definitions

* `DataGrid.ColumnPath.FollowsChains` — every way of following a path comes down to live chains.

## Main results

* `DataGrid.Registry.kept_related` — the rows that belong to a parent.
* `DataGrid.ColumnPath.follows_chains` — all ways agree, for chains of any length.
-/

namespace DataGrid

open Sql

variable {V : Type} (S : Scalars V) (db : Database V)

/-! ## The rows of a parent -/

/-- Values that the store does not tell apart are equal to the same cells. -/
lemma Sql.Scalars.compared_eq_congr {a b c : Option V} (h : S.same b c = true) :
    S.compared .eq a b = S.compared .eq a c := by
  rw [Scalars.same, beq_iff_eq] at h
  cases b with
  | none =>
    cases c with
    | none => rfl
    | some w => cases h
  | some v =>
    cases c with
    | none => cases h
    | some w =>
      cases a with
      | none => rfl
      | some u =>
        have horder : S.order u v = S.order u w := Std.TransCmp.congr_right h
        rw [Scalars.compared, Scalars.compared, horder]

/-- A subject with a parent selects the rows of its table that are not deleted and have the key of
the parent. -/
theorem Subject.kept_parent {e : Entity} {column : String} {key : Json} {lit : Literal}
    (hkey : literal column key = .ok lit) :
    ∃ start, Subject.scope { entity := e, parent := some ⟨column, key⟩ } = .ok start ∧
      start.pageStatement.kept S db =
        ((db e.table).filter (isLive e.softDelete)).filter fun row =>
          S.compared .eq (row column) (S.literal lit) == some true := by
  have hstart : Subject.scope { entity := e, parent := some ⟨column, key⟩ } =
      .ok ((freshScope e).restrictExpr
        (.compare .eq (.column e.table column) (.literal lit))) := by
    unfold Subject.scope
    dsimp only
    rw [hkey]
    rfl
  have hconjunction : ((freshScope e).restrictExpr
      (.compare .eq (.column e.table column) (.literal lit))).condition.IsConjunction :=
    Condition.isConjunction_all.add? (some _)
  refine ⟨_, hstart, ?_⟩
  unfold Select.kept
  rw [List.filter_filter]
  refine List.filter_congr fun row _ => ?_
  have hcell : ∀ name, Env.cell { frames := [(e.table, row)] } e.table name = row name :=
    fun name => Env.cell_ofRow e.table name row
  have hcondition := Subject.holds_scope S db { frames := [(e.table, row)] } hstart
  simp only [Option.some.injEq, forall_eq', hkey, Except.ok.injEq, exists_eq_left', Expr.Holds,
    Expr.truth_compare, Expr.eval, hcell] at hcondition
  rw [Scope.keeps_eq S db hconjunction rfl, Bool.eq_iff_iff, decide_eq_true_iff,
    Scope.holds_restriction S db _ hconjunction, Bool.and_eq_true, beq_iff_eq, isLive_iff]
  refine and_congr hcondition ⟨fun hlive name hname => ?_, fun hlive _ name hname => ?_⟩
  · exact (hcell name).symm.trans (hlive rfl name hname)
  · exact (hcell name).trans (hlive name hname)

/-- The rows that belong to a parent are those that the relation leads to from the row of the
parent, if the key that is given is the one of that row. -/
theorem Registry.kept_related {r : Registry} {parent relation : String} {e target : Entity}
    {link : Relation} (he : r.entity? parent = some e) (hlink : e.relation? relation = some link)
    (htarget : r.entity? link.target = some target) {key : Json} {lit : Literal}
    (hkey : literal link.foreignKey key = .ok lit) {source : Row V}
    (hsame : S.same (S.literal lit) (source link.localKey) = true) :
    ∃ subject start, r.related parent relation key = .ok subject ∧ subject.scope = .ok start ∧
      start.pageStatement.kept S db = (link.hop target).reached S db source := by
  have hsubject : r.related parent relation key =
      .ok { entity := target, parent := some ⟨link.foreignKey, key⟩ } := by
    unfold Registry.related Registry.entity
    rw [he]
    dsimp only [bind, Except.bind]
    rw [hlink]
    dsimp only
    rw [htarget]
    rfl
  obtain ⟨start, hstart, hkept⟩ := Subject.kept_parent S db (e := target) hkey
  refine ⟨_, start, hsubject, hstart, hkept.trans ?_⟩
  exact List.filter_congr fun row _ => by rw [S.compared_eq_congr hsame]; rfl

/-! ## All ways -/

open Classical in
/-- Every way of following a path from the name `base` comes down to the live chains behind the row
`source` that goes by this name. -/
structure ColumnPath.FollowsChains (p : ColumnPath) (base : String) (env : Env V)
    (source : Row V) : Prop where
  /-- The chains that are listed are the live ones. -/
  chains : ∀ rows, rows ∈ liveChains S db p.hops source ↔ LiveChain S db source p.hops rows
  /-- A condition on the row at the end holds when it holds at the end of some live chain. -/
  related : ∀ c : Condition, c.toExpr.labels ⊆ [p.leafLabel base] →
    ((p.related base c).Holds S db env ↔ ∃ rows, LiveChain S db source p.hops rows ∧
      c.Holds S db (.ofRow (p.leafLabel base) (rows.getLastD source)))
  /-- Through relations no condition is unknown. -/
  known : ∀ c : Condition, (p.related base c).truth S db env ≠ none
  /-- Rows are missing when there is no live chain. -/
  missing : ∃ e, p.missing? base = some e ∧
    (e.Holds S db env ↔ ¬ ∃ rows, LiveChain S db source p.hops rows)
  /-- A sort key ranges over the live chains. -/
  sortRows : ∀ d, (p.sortKey base d).lookupRows S db env =
    (liveChains S db p.hops source).map (chainFrames base env.frames p.hops)
  /-- Without live chain the sort key is null. -/
  sortNone : (¬ ∃ rows, LiveChain S db source p.hops rows) →
    ∀ d, (p.sortKey base d).eval S db env = none
  /-- Through a relation that reaches many rows, the sort key is the least or the greatest of the
  values at the end, and null when all of them are. -/
  sortExtreme : (∃ h ∈ p.hops, h.kind = .hasMany) → ∀ d,
    ((p.sortKey base d).eval S db env = none ↔ ∀ rows, LiveChain S db source p.hops rows →
      p.value S (rows.getLastD source) = none) ∧
    ∀ v, (p.sortKey base d).eval S db env = some v →
      (∃ rows, LiveChain S db source p.hops rows ∧ p.value S (rows.getLastD source) = some v) ∧
      ∀ rows w, LiveChain S db source p.hops rows → p.value S (rows.getLastD source) = some w →
        (match d with
          | .asc => S.order v w
          | .desc => S.order w v).isLE
  /-- Otherwise it is the value at the end of the only live chain. -/
  sortSingle : (∀ h ∈ p.hops, h.kind ≠ .hasMany) → ∀ d rows,
    liveChains S db p.hops source = [rows] →
      (p.sortKey base d).eval S db env = p.value S (rows.getLastD source)
  /-- Left joins put the padded chains under the names of the tables … -/
  joins : leftJoined S db [env.frames] (p.joins base) =
    (paddedChains S db p.hops source).map (chainFrames base env.frames p.hops)
  /-- … and those among them without missing rows are the live chains. -/
  joinsComplete : ((paddedChains S db p.hops source).filter fun rows => nullRow ∉ rows) =
    liveChains S db p.hops source
  /-- The rows that belong to a parent are those behind a single relation. -/
  parent : ∀ (r : Registry) (name relation : String) (e target : Entity) (link : Relation)
    (key : Json) (lit : Literal), r.entity? name = some e → e.relation? relation = some link →
      r.entity? link.target = some target → p.hops = [link.hop target] →
      literal link.foreignKey key = .ok lit →
      S.same (S.literal lit) (source link.localKey) = true →
      ∃ subject start, r.related name relation key = .ok subject ∧ subject.scope = .ok start ∧
        (start.pageStatement.kept S db).map (fun row => [row]) = liveChains S db p.hops source

namespace ColumnPath

variable {p : ColumnPath} {base : String} {env : Env V} {source : Row V}

/-- **All ways of following a path agree**, for a path through any number of relations, whatever
the subject is called and whatever rows stand around it.

**Proof sketch.** Existence tests ask for a live chain (`holds_existsAlong`), and joins make the
live chains, padded where they break off (`joined_joinsAlong`, `leftJoined_joinsAlong`). A sort key
ranges over the rows of inner joins. The restriction to the rows of a parent compares the same two
keys as the first step of a chain (`Registry.kept_related`). -/
theorem follows_chains (hhops : p.hops ≠ [])
    (hsource : Keyed.find? base env.frames = some source) :
    p.FollowsChains S db base env source where
  chains _ := mem_liveChains S db
  related _ := holds_related S db hhops hsource
  known := truth_related_ne_none S db hhops
  missing := holds_missing? S db hhops hsource
  sortRows := lookupRows_sortKey S db hhops hsource
  sortNone hnone d := by
    rw [eval_sortKey_eq S db hhops hsource d, (liveChains_eq_nil S db).mpr hnone]
    dsimp only
    split
    · rfl
    · rfl
  sortExtreme := sortKey_isExtreme S db hhops hsource
  sortSingle hone d rows hrows := by
    have hfew : (p.hops.any fun h => h.kind = .hasMany) = false := by simpa using hone
    rw [eval_sortKey_eq S db hhops hsource d, hrows, hfew]
    rfl
  joins := leftJoined_joinsAlong S db hsource
  joinsComplete := paddedChains_filter S db p.hops source
  parent r name relation e target link key lit he hlink htarget hp hkey hsame := by
    obtain ⟨subject, start, hsubject, hstart, hkept⟩ :=
      Registry.kept_related S db he hlink htarget hkey hsame
    refine ⟨subject, start, hsubject, hstart, ?_⟩
    rw [hkept, hp, liveChains, rowsAlong, List.map_eq_flatMap]
    rfl

end ColumnPath

/-! ## An example -/

namespace Zoo

/-- A row with the given cells; all others are null. -/
def rowOf (cells : List (String × Literal)) : Row Literal := fun name => Keyed.find? name cells

/-- A keeper. -/
def keeper : Row Literal := rowOf [("id", .int 1)]

/-- Two flamingos of one keeper, of which only the first is vaccinated. -/
def flock : Database Literal
  | "keepers" => [keeper]
  | "flamingos" => [rowOf [("id", .int 1), ("keeper_id", .int 1)],
      rowOf [("id", .int 2), ("keeper_id", .int 1)]]
  | "vaccinations" => [rowOf [("id", .int 1), ("flamingo_id", .int 1), ("vaccine", .string "H5")]]
  | _ => []

end Zoo

/-- From the keeper of two flamingos to the vaccines that they have got. -/
theorem ColumnPath.follows_chains_vaccines :
    ∃ r p, Zoo.registry = .ok r ∧
      r.resolve Zoo.keepers "flamingos.vaccinations.vaccine" = .ok p ∧ p.hops ≠ [] ∧
      Keyed.find? "keepers" (Env.ofRow "keepers" Zoo.keeper).frames = some Zoo.keeper ∧
      p.FollowsChains Scalars.ofLiterals Zoo.flock "keepers" (.ofRow "keepers" Zoo.keeper)
        Zoo.keeper :=
  ⟨_, _, rfl, rfl, List.cons_ne_nil _ _, rfl,
    ColumnPath.follows_chains Scalars.ofLiterals Zoo.flock (List.cons_ne_nil _ _) rfl⟩

end DataGrid
