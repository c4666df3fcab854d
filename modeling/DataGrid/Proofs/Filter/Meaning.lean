import DataGrid.Proofs.Query.Chains

/-!
# The meaning of filter trees

A filter tree is read as it stands: a leaf is worth what its own condition is worth, and a group
joins the values of its nodes by AND or by OR. Its condition is put together in another way. Nodes
are put into a group one after the other, and a node that has become a single term goes in without
its junction; the outcome is put into further conditions by the same rule. None of this changes a
truth value.

## Main definitions

* `DataGrid.FilterNode.kleene` — the truth value of a tree from those of its leaves.
* `DataGrid.FilterNode.truth` — the truth value of a tree, read as it stands.
* `DataGrid.FilterNode.entryTruth` — the truth value of the filter that a tree is for the subject.
* `DataGrid.FilterNode.KeepsMeaning` — a condition is worth what a tree is worth, wherever it is put.

## Main results

* `DataGrid.FilterNode.truth_of_compile` — the condition of a tree has the truth value of the tree.
* `DataGrid.FilterNode.keepsMeaning_of_compile` — it keeps it in whatever it is put into.
-/

namespace DataGrid

open Sql

variable {V : Type} (S : Scalars V) (db : Database V)

/-! ## Trees as they stand -/

/-- The truth value of a leaf is that of its own condition; a leaf that is refused has none. -/
def LeafFilter.truth (p : ColumnPath) (label : String) (env : Env V) (f : LeafFilter) : Truth :=
  match f.compile p label with
  | .ok c => c.truth S db env
  | .error _ => none

namespace FilterNode

mutual

/-- The truth value of a tree from those of its leaves. A group whose tag names no junction is
refused and has none. -/
def kleene (leaf : LeafFilter → Truth) : FilterNode → Truth
  | .leaf f => leaf f
  | .group operator conditions =>
    match Junction.ofTag? operator with
    | some junction => junction.fold (kleeneAll leaf conditions)
    | none => none

/-- The truth values of several trees. -/
def kleeneAll (leaf : LeafFilter → Truth) : List FilterNode → List Truth
  | [] => []
  | node :: rest => kleene leaf node :: kleeneAll leaf rest

end

/-- The truth value of a tree on the column of a path, in the rows called `label`. -/
def truth (p : ColumnPath) (label : String) (env : Env V) (node : FilterNode) : Truth :=
  node.kleene (LeafFilter.truth S db p label env)

open Classical in
/-- The truth value of the filter that a tree is for the subject, whose row is `source`. Behind
relations the tree must be true at the end of some live chain; a set filter that selects missing
values is content with there being none. -/
noncomputable def entryTruth (p : ColumnPath) (base : String) (env : Env V) (source : Row V)
    (node : FilterNode) : Truth :=
  let found : Truth := some (decide (∃ rows, LiveChain S db source p.hops rows ∧
    node.truth S db p (p.leafLabel base) (.ofRow (p.leafLabel base) (rows.getLastD source)) =
      some true))
  if p.hops = [] then node.truth S db p base env
  else if node.selectsNull then
    Truth.disj found (some (decide (¬ ∃ rows, LiveChain S db source p.hops rows)))
  else found

/-! ## Compiled trees -/

section

variable {p : ColumnPath} {label : String} (env : Env V)

/-- A condition without terms is worth what its junction is worth without terms. -/
lemma truth_empty (junction : Junction) :
    (Condition.mk false junction []).truth S db env = junction.unit :=
  Condition.truth_eq S db env _

/-- One of two conditions, joined by OR. -/
lemma truth_either (c : Condition) (e : Expr) :
    ((Condition.any.add c).addExpr e).truth S db env =
      Truth.disj (c.truth S db env) (e.truth S db env) := by
  have hnothing : Condition.any.truth S db env = Junction.any.unit := truth_empty S db env .any
  rw [Condition.truth_addExpr S db env rfl, Condition.truth_add S db env rfl, hnothing]
  exact congrArg (Truth.disj · _) (Junction.unit_op .any _)

mutual

/-- **The condition of a tree** has the truth value of the tree.

**Proof sketch.** Induction over the tree, a group together with the list of its nodes. What a node
loses when it is put into a group is the junction of a single term, and that has no influence on its
truth value (`Condition.truth_add`). -/
theorem truth_of_compile {c : Condition} : ∀ node : FilterNode, node.compile p label = .ok c →
    c.truth S db env = node.truth S db p label env
  | .leaf f, h => by
    rw [compile] at h
    rw [truth, kleene, LeafFilter.truth, h]
  | .group operator conditions, h => by
    rw [compile, Junction.ofTag, readTag] at h
    rw [truth, kleene]
    cases htag : Junction.ofTag? operator with
    | none =>
      rw [htag] at h
      cases h
    | some junction =>
      rw [htag] at h
      have hall : c.truth S db env = junction.op _ _ := truth_of_compileInto rfl conditions h
      rw [hall, truth_empty S db env, Junction.unit_op]

/-- Nodes put into a group join their truth values to that of the group, in their order. -/
theorem truth_of_compileInto {group c : Condition} (hgroup : group.negated = false) :
    ∀ nodes : List FilterNode, compileInto p label group nodes = .ok c →
      c.truth S db env = group.junction.op (group.truth S db env)
        (group.junction.fold (kleeneAll (LeafFilter.truth S db p label env) nodes))
  | [], h => by
    rw [compileInto, Except.ok.injEq] at h
    rw [kleeneAll, Junction.fold_nil, Junction.op_unit, h]
  | node :: rest, h => by
    rw [compileInto] at h
    split at h
    · cases h
    · next d hd =>
      have hnode : d.truth S db env = node.kleene _ := truth_of_compile node hd
      have hadd : (group.add d).negated = false := hgroup
      have hrest : c.truth S db env = group.junction.op _ _ := truth_of_compileInto hadd rest h
      rw [hrest, Condition.truth_add S db env hgroup, hnode, Junction.op_assoc, kleeneAll,
        Junction.fold_cons]
      rfl

end

end

/-- The filter on the subject is true of a row when some live chain behind it ends where the tree
is true, or when there is none and the tree selects missing values. -/
lemma entryTruth_eq_true_iff {p : ColumnPath} {base : String} {source : Row V}
    {node : FilterNode} :
    node.entryTruth S db p base (.ofRow base source) source = some true ↔
      (∃ rows, LiveChain S db source p.hops rows ∧
        node.truth S db p (p.leafLabel base) (.ofRow (p.leafLabel base) (rows.getLastD source)) =
          some true) ∨
      (node.selectsNull = true ∧ ¬ ∃ rows, LiveChain S db source p.hops rows) := by
  unfold entryTruth
  by_cases hhops : p.hops = []
  · simp [hhops, p.leafLabel_of_hops_eq_nil hhops]
  · rw [if_neg hhops]
    cases node.selectsNull <;> simp

/-! ## Compiled trees inside other conditions -/

open Classical in
/-- The condition `c` is worth what the tree is worth in the rows called `label`, by itself and in
whatever it is put into. -/
structure KeepsMeaning (node : FilterNode) (p : ColumnPath) (label : String) (c : Condition) :
    Prop where
  alone : ∀ env : Env V, c.truth S db env = node.truth S db p label env
  /-- Among the terms of a group, it joins its truth value by the junction of the group. -/
  nested : ∀ (env : Env V) (outer : Condition), outer.negated = false →
    (outer.add c).truth S db env =
      outer.junction.op (outer.truth S db env) (node.truth S db p label env)
  /-- Inside an existence test, it must be true of a related row together with what joins it. -/
  correlated : ∀ (env : Env V) (h : Hop) (parent : String), h.label parent = label →
    (h.existsExpr parent (some c)).truth S db env =
      some (decide (∃ row ∈ db h.table,
        Truth.conj ((h.correlation parent).truth S db (env.enter label row))
          (node.truth S db p label (env.enter label row)) = some true))
  /-- As a filter on the subject, it is one behind the relations of the path, joined by OR to the
  test for missing rows where the tree selects missing values. Any scope that operations make is
  restricted to it by AND. -/
  entry : ∀ base, p.leafLabel base = label → ∃ d, node.entry p base = .ok d ∧
    ∀ (env : Env V) (source : Row V), Keyed.find? base env.frames = some source →
      d.truth S db env = node.entryTruth S db p base env source ∧
      ∀ (e : Entity) (ops : List ScopeChange),
        (((Subject.freshScope e).applyAll ops).restrict d).condition.truth S db env =
          Truth.conj (((Subject.freshScope e).applyAll ops).condition.truth S db env)
            (node.entryTruth S db p base env source)

section

variable {p : ColumnPath} {node : FilterNode} {c : Condition}

/-- A condition inside an existence test is asked of a related row together with the keys. -/
lemma truth_existsExpr_some (env : Env V) (h : Hop) (parent : String) (c : Condition) :
    (h.existsExpr parent (some c)).truth S db env =
      some (decide (∃ row ∈ db h.table,
        Truth.conj ((h.correlation parent).truth S db (env.enter (h.label parent) row))
          (c.truth S db (env.enter (h.label parent) row)) = some true)) := by
  have hplain := h.isConjunction_correlation parent
  rw [Hop.existsExpr, Expr.truth_existsIn]
  congr 2
  refine propext (exists_congr fun row => and_congr_right fun _ => ?_)
  have hjoined := Condition.truth_add S db (env.enter (h.label parent) row) hplain.negated c
  rw [hplain.junction] at hjoined
  rw [Expr.Holds, ← Condition.truth, Condition.add?, hjoined, Junction.op]

/-- **The filter on the subject** has the truth value that the tree and the live chains give it.

**Proof sketch.** Without hops the filter is the condition of the tree. Behind hops it is an
existence test, which asks for a live chain (`ColumnPath.truth_related`); to a set filter that
selects missing values the opposite test is joined by OR (`ColumnPath.truth_missing?`). -/
theorem truth_of_entry {base : String} (h : node.compile p (p.leafLabel base) = .ok c) :
    ∃ d, node.entry p base = .ok d ∧ ∀ (env : Env V) (source : Row V),
      Keyed.find? base env.frames = some source →
        d.truth S db env = node.entryTruth S db p base env source := by
  have hmeaning : ∀ env : Env V, c.truth S db env = node.truth S db p (p.leafLabel base) env :=
    fun env => truth_of_compile S db env node h
  have hlabels := (node.compile_isLocal h).labels
  refine ⟨_, bind_eq_ok.mpr ⟨c, h, rfl⟩, fun env source hsource => ?_⟩
  by_cases hhops : p.hops = []
  · have hmissing : p.missing? base = none := by rw [ColumnPath.missing?, hhops]
    have hrelated : p.related base c = c := by rw [ColumnPath.related, hhops]; rfl
    rw [entryTruth, if_pos hhops, hmissing, hrelated, hmeaning, p.leafLabel_of_hops_eq_nil hhops]
  · obtain ⟨missing, hmissing, hnone⟩ := p.truth_missing? S db hhops hsource
    have hfound := p.truth_related S db hhops hsource hlabels
    have hend : ∀ rows : List (Row V),
        c.Holds S db (.ofRow (p.leafLabel base) (rows.getLastD source)) ↔
          node.truth S db p (p.leafLabel base)
            (.ofRow (p.leafLabel base) (rows.getLastD source)) = some true :=
      fun rows => by rw [Condition.Holds, hmeaning]
    rw [decide_eq_decide.mpr (exists_congr fun rows => and_congr_right' (hend rows))] at hfound
    rw [entryTruth, if_neg hhops, hmissing]
    cases hnull : node.selectsNull with
    | false => exact hfound
    | true =>
      dsimp only
      rw [if_pos rfl, truth_either, hfound, hnone]

/-- **A filter tree means what it says**: whatever tree is compiled, however deep and wide, its
condition has the truth value of the tree in every environment, and keeps it among the terms of any
group, inside existence tests, beside the test for missing rows and in the condition of a scope.

**Proof sketch.** By itself the condition is worth the tree by induction (`truth_of_compile`). All
that it is put into, it is put into by `Condition.add`, which joins its truth value
(`Condition.truth_add`). -/
theorem keepsMeaning_of_compile {label : String} (h : node.compile p label = .ok c) :
    node.KeepsMeaning S db p label c where
  alone env := truth_of_compile S db env node h
  nested env outer houter := by
    rw [Condition.truth_add S db env houter, truth_of_compile S db env node h]
  correlated env hop parent hlabel := by
    rw [truth_existsExpr_some S db env hop parent c, hlabel]
    simp only [fun env : Env V => truth_of_compile S db env node h]
  entry base hbase := by
    obtain ⟨d, hd, htruth⟩ := truth_of_entry S db (hbase.symm ▸ h)
    refine ⟨d, hd, fun env source hsource => ⟨htruth env source hsource, fun e ops => ?_⟩⟩
    have hplain := Scope.isConjunction_applyAll (s := Subject.freshScope e)
      Condition.isConjunction_all ops
    rw [Scope.restrict, Condition.truth_add S db env hplain.negated, hplain.junction,
      htruth env source hsource]
    rfl

end

/-- A group inside a group inside a group, some of them of one node or none, on the vaccines that
the flamingos of a keeper have got. -/
theorem keepsMeaning_vaccines :
    ∃ r p c, Zoo.registry = .ok r ∧
      r.resolve Zoo.keepers "flamingos.vaccinations.vaccine" = .ok p ∧
      (FilterNode.group "OR" [
        .group "and" [.leaf { filterType := "text", operator := some "blank" }],
        .group "AND" [
          .group "OR" [.leaf { filterType := "set", values := [.string "H5", .null] }],
          .group "AND" []],
        .group "OR" []]).compile p (p.leafLabel "keepers") = .ok c ∧
      (FilterNode.group "OR" [
        .group "and" [.leaf { filterType := "text", operator := some "blank" }],
        .group "AND" [
          .group "OR" [.leaf { filterType := "set", values := [.string "H5", .null] }],
          .group "AND" []],
        .group "OR" []]).KeepsMeaning Scalars.ofLiterals Zoo.flock p (p.leafLabel "keepers") c :=
  ⟨_, _, _, rfl, rfl, rfl, keepsMeaning_of_compile Scalars.ofLiterals Zoo.flock rfl⟩

end FilterNode

end DataGrid
