import DataGrid.Proofs.Filter.Cells
import DataGrid.Proofs.Filter.Grammar

/-!
# Selections and their opposites

Toggled identities either are the selection or the exceptions to it. A restriction to the one and a
restriction to the other divide the rows of a scope between them, as long as null is not among the
identities: nothing is equal to null, but nothing is known to be different from it either, so that a
null among the exceptions leaves no row selected.

## Main definitions

* `DataGrid.Scope.Toggles` — a row is among the toggled ones.
* `DataGrid.Scope.Divides` — what the restrictions to toggled rows and to all others keep.

## Main results

* `DataGrid.Scope.holds_restriction_apply` — an operation restricts the rows by its condition.
* `DataGrid.Scope.holds_select` — the rows that a selection keeps.
* `DataGrid.Scope.selections_divide` — the two selections of any toggled identities.

## Implementation notes

Whether an identity is equal to a key is left to the store, which may take values of different types
for equal. All that is used of its comparison is that it compares any two values that are there.
-/

namespace DataGrid

open Sql

variable {V : Type} (S : Scalars V) (db : Database V)

/-! ## Listed values and cells -/

namespace Json

variable {column : String} {cell : Option V}

/-- No cell is known to be different from null. -/
lemma not_differsFromCell_null : ¬ DiffersFromCell S column cell .null := by
  rintro ⟨l, v, w, hliteral, -, hw, -⟩
  obtain rfl := Except.ok.inj hliteral
  cases hw

/-- A scalar other than null is different from the cells that it is not equal to. -/
lemma differsFromCell_iff {j : Json} (hscalar : j.IsScalar) (hnull : j ≠ .null)
    (hcell : cell ≠ none) : j.DiffersFromCell S column cell ↔ ¬ j.EqualsCell S column cell := by
  obtain ⟨v, rfl⟩ := Option.ne_none_iff_exists'.mp hcell
  obtain ⟨l, w, hl, hw⟩ : ∃ l w, literal column j = .ok l ∧ S.literal l = some w := by
    cases hscalar with
    | null => exact absurd rfl hnull
    | bool b => exact ⟨_, _, rfl, rfl⟩
    | number n => cases n <;> exact ⟨_, _, rfl, rfl⟩
    | string s => exact ⟨_, _, rfl, rfl⟩
  simp only [DiffersFromCell, EqualsCell, hl, Except.ok.injEq, exists_and_left, exists_eq_left', hw,
    Option.some.injEq]

end Json

/-! ## Restricted scopes -/

namespace Scope

variable {s : Scope} {env : Env V}

/-- An operation that restricts the rows does nothing else to them. -/
lemma holds_restriction_apply (h : s.condition.IsConjunction) {op : ScopeChange} {c : Condition}
    (hc : op.condition? s.table = some c) :
    (s.apply op).restriction.Holds S db env ↔
      s.restriction.Holds S db env ∧ c.Holds S db env := by
  have hcondition := s.condition_apply op
  rw [hc] at hcondition
  have hconjunction : (s.apply op).condition.IsConjunction := by
    rw [hcondition]
    exact h.add? (some c)
  have htrashed : (s.apply op).withTrashed = s.withTrashed := by
    cases op with
    | withTrashed => cases hc
    | _ => rfl
  rw [holds_restriction S db env hconjunction, holds_restriction S db env h, hcondition,
    Condition.holds_add? S db env h, htrashed, softDelete_apply, table_apply]
  simp only [Option.some.injEq, forall_eq']
  exact and_right_comm

/-- The key of a row is equal to one of the toggled identities. -/
def Toggles (s : Scope) (toggled : List Json) (env : Env V) : Prop :=
  ∃ j ∈ toggled, j.EqualsCell S s.primaryKey (env.cell s.table s.primaryKey)

/-- **The rows that a selection keeps** of those of the scope: the toggled ones are equal to one of
the identities, and the others are different from all of them. -/
theorem holds_select (h : s.condition.IsConjunction) {mode : SelectionMode} {toggled : List Json}
    {selected : Scope} (hselected : s.select ⟨mode, toggled⟩ = .ok selected) :
    selected.restriction.Holds S db env ↔ s.restriction.Holds S db env ∧
      match mode with
      | .only => s.Toggles S toggled env
      | .except =>
        ∀ j ∈ toggled, j.DiffersFromCell S s.primaryKey (env.cell s.table s.primaryKey) := by
  obtain ⟨ids, hids, rfl⟩ := select_spec hselected
  have hcondition := Selection.condition?_operation ⟨mode, toggled⟩ s.table s.primaryKey ids
  rw [holds_restriction_apply S db h hcondition, Condition.holds_ofExpr, Expr.Holds,
    Expr.truth_isIn, Expr.eval]
  refine and_congr_right fun _ => ?_
  cases mode with
  | only => exact isMember_eq_true S hids
  | except => exact Truth.neg_eq_true.trans (isMember_eq_false S hids)

/-- What two restrictions of a scope keep, one to toggled rows and one to all others. The key of a
row is the cell of the primary key. -/
structure Divides (s : Scope) (toggled : List Json) (chosen rest : Scope) : Prop where
  /-- The toggled rows are those whose key is equal to one of the identities. -/
  chosen_iff : ∀ env : Env V, chosen.restriction.Holds S db env ↔
    s.restriction.Holds S db env ∧ s.Toggles S toggled env
  /-- The others are those whose key is not, unless null is toggled. -/
  rest_iff : .null ∉ toggled → ∀ env : Env V, env.cell s.table s.primaryKey ≠ none →
    (rest.restriction.Holds S db env ↔
      s.restriction.Holds S db env ∧ ¬ s.Toggles S toggled env)
  /-- Each row of the scope is kept by one of the two. -/
  exactly_one : .null ∉ toggled → ∀ env : Env V, env.cell s.table s.primaryKey ≠ none →
    s.restriction.Holds S db env →
    Xor (chosen.restriction.Holds S db env) (rest.restriction.Holds S db env)
  /-- Where null is toggled, there are no others. -/
  rest_of_null : .null ∈ toggled → ∀ env : Env V, ¬ rest.restriction.Holds S db env

/-- The two restrictions to scalars divide the rows of a scope. -/
lemma divides_of_select (h : s.condition.IsConjunction) {toggled : List Json}
    (hscalars : ∀ j ∈ toggled, j.IsScalar) {chosen rest : Scope}
    (hchosen : s.select ⟨.only, toggled⟩ = .ok chosen)
    (hrest : s.select ⟨.except, toggled⟩ = .ok rest) : s.Divides S db toggled chosen rest := by
  have hchosen_iff : ∀ env : Env V, chosen.restriction.Holds S db env ↔
      s.restriction.Holds S db env ∧ s.Toggles S toggled env :=
    fun env => holds_select S db h hchosen
  have hrest_iff : .null ∉ toggled → ∀ env : Env V, env.cell s.table s.primaryKey ≠ none →
      (rest.restriction.Holds S db env ↔
        s.restriction.Holds S db env ∧ ¬ s.Toggles S toggled env) := by
    intro hnull env hcell
    rw [holds_select S db h hrest, Toggles, not_exists]
    refine and_congr_right fun _ => forall_congr' fun j => ?_
    rw [not_and]
    refine imp_congr_right fun hj => Json.differsFromCell_iff S (hscalars j hj) ?_ hcell
    rintro rfl
    exact hnull hj
  refine ⟨hchosen_iff, hrest_iff, fun hnull env hcell hholds => ?_, fun hnull env hholds => ?_⟩
  · rw [hchosen_iff env, hrest_iff hnull env hcell, and_iff_right hholds, and_iff_right hholds]
    exact xor_not_right.mpr Iff.rfl
  · rw [holds_select S db h hrest] at hholds
    exact Json.not_differsFromCell_null S (hholds.2 .null hnull)

/-- **Selections divide the rows of a scope.** In any scope that operations make, toggled scalars
can be selected and can be left out, and the two restrictions divide the rows (`Divides`). Neither
the order of the identities matters nor how often they are toggled. If one of them is not a scalar,
the selection fails, and a custom filter that selects leaves the scope as it was.

**Proof sketch.** A selection is a single term of the condition, and what a row has to do with the
identities is told by the identities alone (`holds_select`). -/
theorem selections_divide (e : Entity) (ops : List ScopeChange) (toggled : List Json)
    (hs : s = (Subject.freshScope e).applyAll ops) :
    ((∀ j ∈ toggled, j.IsScalar) →
      ∃ chosen rest, s.select ⟨.only, toggled⟩ = .ok chosen ∧
        s.select ⟨.except, toggled⟩ = .ok rest ∧ s.Divides S db toggled chosen rest) ∧
    (∀ toggled' mode selected selected', (∀ j, j ∈ toggled' ↔ j ∈ toggled) →
      s.select ⟨mode, toggled⟩ = .ok selected → s.select ⟨mode, toggled'⟩ = .ok selected' →
      ∀ env : Env V, selected'.restriction.Holds S db env ↔ selected.restriction.Holds S db env) ∧
    ((∃ j ∈ toggled, ¬ j.IsScalar) → ∀ mode,
      s.select ⟨mode, toggled⟩ = .error (.invalidValue s.primaryKey .notScalar) ∧
      ∀ r subject given, HookStep.run r subject given s (.select ⟨mode, toggled⟩) =
        { scope := s, fault := some (.invalidValue s.primaryKey .notScalar) }) := by
  have hconjunction : s.condition.IsConjunction := by
    rw [hs]
    exact isConjunction_applyAll Condition.isConjunction_all ops
  refine ⟨fun hscalars => ?_, fun toggled' mode selected selected' hsame h h' env => ?_,
    fun hbad mode => ?_⟩
  · obtain ⟨ids, hids⟩ : ∃ ids, toggled.mapM (literal s.primaryKey) = .ok ids :=
      exists_mapM_eq_ok fun j hj => exists_literal (hscalars j hj)
    have hchosen : s.select ⟨.only, toggled⟩ = .ok _ := select_eq_ok hids
    have hrest : s.select ⟨.except, toggled⟩ = .ok _ := select_eq_ok hids
    exact ⟨_, _, hchosen, hrest, divides_of_select S db hconjunction hscalars hchosen hrest⟩
  · rw [holds_select S db hconjunction h, holds_select S db hconjunction h']
    cases mode <;> simp only [Toggles, hsame]
  · have hselect : s.select ⟨mode, toggled⟩ =
        .error (.invalidValue s.primaryKey .notScalar) := by
      rw [select, mapM_literal_eq_error hbad]
      rfl
    refine ⟨hselect, fun r subject given => ?_⟩
    rw [HookStep.run, hselect]
    rfl

end Scope

/-- A number and a text, both toggled. -/
def Zoo.toggled : List Json := [.number (.int 1 (by decide)), .string "a"]

/-- Flamingos called Andy, some of which are toggled by a number and by a text. -/
theorem Scope.selections_divide_flamingos :
    ∃ s chosen rest, s = (Subject.freshScope Zoo.flamingos).applyAll
        [.keepIn "name" [.string "Andy"]] ∧
      s.select ⟨.only, Zoo.toggled⟩ = .ok chosen ∧ s.select ⟨.except, Zoo.toggled⟩ = .ok rest ∧
      s.Divides Scalars.ofLiterals Zoo.flock Zoo.toggled chosen rest := by
  refine ⟨_, _, _, rfl, rfl, rfl, ?_⟩
  have hscalars : ∀ j ∈ Zoo.toggled, j.IsScalar :=
    List.forall_mem_cons.mpr ⟨.number _, List.forall_mem_singleton.mpr (.string "a")⟩
  obtain ⟨chosen, rest, hchosen, hrest, hdivides⟩ :=
    (Scope.selections_divide Scalars.ofLiterals Zoo.flock Zoo.flamingos
      [.keepIn "name" [.string "Andy"]] Zoo.toggled rfl).1 hscalars
  obtain rfl := Except.ok.inj hchosen
  obtain rfl := Except.ok.inj hrest
  exact hdivides

/-- **A toggled null loses rows.** With null and the first flamingo toggled, the second one is
neither among the toggled rows nor among the others. -/
theorem Scope.toggled_null_loses_rows :
    ∃ s chosen rest env, s = Subject.freshScope Zoo.flamingos ∧
      env = Env.ofRow "flamingos" (Zoo.rowOf [("id", .int 2)]) ∧
      s.select ⟨.only, [.number (.int 1 (by decide)), .null]⟩ = .ok chosen ∧
      s.select ⟨.except, [.number (.int 1 (by decide)), .null]⟩ = .ok rest ∧
      env.cell s.table s.primaryKey = some (.int 2) ∧
      s.restriction.Holds Scalars.ofLiterals Zoo.flock env ∧
      ¬ chosen.restriction.Holds Scalars.ofLiterals Zoo.flock env ∧
      ¬ rest.restriction.Holds Scalars.ofLiterals Zoo.flock env :=
  ⟨_, _, _, _, rfl, rfl, rfl, rfl, rfl, by decide +kernel, by decide +kernel, by decide +kernel⟩

end DataGrid
