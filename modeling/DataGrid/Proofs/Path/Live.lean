import DataGrid.Proofs.Filter.Locality
import DataGrid.Proofs.Path.Labels
import Mathlib.Data.List.Perm.Basic

/-!
# Chains of relations and deleted rows

A hop reaches the rows of its table that are not deleted, and no other row of the table has an
influence on what is found through it. So two databases that have the same live rows behind each hop
are the same to existence tests, to joins and to sort keys.

## Main definitions

* `DataGrid.Hop.liveRows` — the rows that a hop can reach.
* `DataGrid.Hop.SameLive` — two databases have the same live rows behind a hop.
* `DataGrid.Hop.AtMostOne` — a hop reaches at most one live row.

## Main results

* `DataGrid.Hop.holds_correlation` — what joins the table of a hop to its parent.
* `DataGrid.truth_existsAlong` — existence tests along hops.
* `DataGrid.extended_joinsAlong_perm`, `DataGrid.leftJoined_joinsAlong_perm` — joins along hops.
* `DataGrid.ColumnPath.sortKey_congr` — sort keys.
-/

namespace DataGrid

open Sql

variable {V : Type} (S : Scalars V)

/-! ## Live rows -/

/-- Whether a row is not deleted, where the given column is set in deleted rows. -/
def isLive (softDelete : Option String) (row : Row V) : Bool :=
  softDelete.all fun name => (row name).isNone

/-- A row is live when the column that is set in deleted rows, if there is one, is null in it. -/
lemma isLive_iff {softDelete : Option String} {row : Row V} :
    isLive softDelete row = true ↔ ∀ name, softDelete = some name → row name = none := by
  cases softDelete with
  | none => simp [isLive]
  | some name => simp [isLive]

/-- The rows behind a hop that are not deleted. -/
def Hop.liveRows (db : Database V) (h : Hop) : List (Row V) :=
  (db h.table).filter (isLive h.softDelete)

/-- Two databases have the same live rows behind a hop. -/
def Hop.SameLive (db db' : Database V) (h : Hop) : Prop :=
  (h.liveRows db).Perm (h.liveRows db')

/-- From any value of the local key, a hop reaches at most one live row. -/
def Hop.AtMostOne (db : Database V) (h : Hop) : Prop :=
  ∀ v, ((h.liveRows db).filter fun row =>
    S.compared .eq (row h.foreignKey) v == some true).length ≤ 1

/-! ## One hop -/

/-- The condition that joins the table of a hop is a conjunction. -/
lemma Hop.isConjunction_correlation (h : Hop) (parent : String) :
    (h.correlation parent).IsConjunction :=
  (Condition.IsConjunction.mk rfl rfl).addExpr? _

/-- **What joins the table of a hop to its parent**: the keys agree and the row is not deleted. -/
theorem Hop.holds_correlation (db : Database V) (env : Env V) (h : Hop) (parent : String)
    (row : Row V) :
    (h.correlation parent).Holds S db (env.enter (h.label parent) row) ↔
      S.compared .eq (row h.foreignKey) (env.cell parent h.localKey) = some true ∧
        isLive h.softDelete row = true := by
  have hparent : (env.enter (h.label parent) row).cell parent h.localKey =
      env.cell parent h.localKey := by
    have hne : h.label parent ≠ parent := by
      intro heq
      have hlong := h.length_lt_label parent
      rw [heq] at hlong
      exact Nat.lt_irrefl _ hlong
    rw [Env.cell, Env.cell, Env.frames_enter, Keyed.find?, if_neg hne]
  have hall : Condition.all.addExpr (.compare .eq (.column (h.label parent) h.foreignKey)
      (.column parent h.localKey)) = .ofExpr (.compare .eq (.column (h.label parent) h.foreignKey)
      (.column parent h.localKey)) := rfl
  rw [Hop.correlation, hall, Condition.holds_addExpr? S db _ ⟨rfl, rfl⟩, Condition.Holds,
    Condition.truth_ofExpr, Expr.truth_compare, Expr.eval, Expr.eval, Env.cell_enter, hparent,
    Hop.live?, isLive_iff]
  refine and_congr_right fun _ => ?_
  cases h.softDelete with
  | none => simp
  | some name =>
    simp only [Option.map_some, Option.some.injEq, forall_eq', Expr.holds_isNull]
    rw [Expr.eval, Env.cell_enter, Bool.not_false, Option.isNone_iff_eq_none]

/-- An existence test along a hop asks for a live row with the right key. -/
lemma Hop.holds_existsExpr (db : Database V) (env : Env V) (h : Hop) (parent : String)
    (inner : Option Condition) :
    (h.existsExpr parent inner).Holds S db env ↔ ∃ row ∈ h.liveRows db,
      S.compared .eq (row h.foreignKey) (env.cell parent h.localKey) = some true ∧
        ∀ c, inner = some c → c.Holds S db (env.enter (h.label parent) row) := by
  have hone : ∀ row, ((h.correlation parent).add? inner).toExpr.Holds S db
      (env.enter (h.label parent) row) ↔
        (S.compared .eq (row h.foreignKey) (env.cell parent h.localKey) = some true ∧
          isLive h.softDelete row = true) ∧
        ∀ c, inner = some c → c.Holds S db (env.enter (h.label parent) row) := fun row =>
    (Condition.holds_add? S db _ (h.isConjunction_correlation parent) inner).trans
      (and_congr_left fun _ => h.holds_correlation S db env parent row)
  rw [Hop.existsExpr, Expr.holds_existsIn]
  simp only [hone, Hop.liveRows, List.mem_filter]
  constructor
  · rintro ⟨row, hrow, ⟨hkey, hlive⟩, hinner⟩
    exact ⟨row, ⟨hrow, hlive⟩, hkey, hinner⟩
  · rintro ⟨row, ⟨hrow, hlive⟩, hkey, hinner⟩
    exact ⟨row, hrow, ⟨hkey, hlive⟩, hinner⟩

section

variable {db db' : Database V}

/-- An existence test along a hop is the same in databases with the same live rows behind it. -/
lemma Hop.truth_existsExpr {h : Hop} (hlive : h.SameLive db db') (parent : String)
    {inner : Option Condition}
    (hinner : ∀ c, inner = some c → ∀ env, c.truth S db env = c.truth S db' env) (env : Env V) :
    (h.existsExpr parent inner).truth S db env = (h.existsExpr parent inner).truth S db' env := by
  have hholds : (h.existsExpr parent inner).Holds S db env ↔
      (h.existsExpr parent inner).Holds S db' env := by
    rw [h.holds_existsExpr, h.holds_existsExpr]
    refine exists_congr fun row => and_congr hlive.mem_iff (and_congr_right fun _ => ?_)
    refine forall₂_congr fun c hc => ?_
    rw [Condition.Holds, Condition.Holds, hinner c hc]
  rw [Expr.Holds, Expr.Holds, Hop.existsExpr, Expr.truth_existsIn, Expr.truth_existsIn] at hholds
  rw [Hop.existsExpr, Expr.truth_existsIn, Expr.truth_existsIn]
  simpa using hholds

/-- **Existence tests along hops** are the same in databases with the same live rows behind each
hop, if the condition at the end is.

**Proof sketch.** Induction on the hops; each test asks for live rows only. -/
theorem truth_existsAlong {hops : List Hop} (hlive : ∀ h ∈ hops, h.SameLive db db')
    (parent : String) {inner : Option Condition}
    (hinner : ∀ c, inner = some c → ∀ env, c.truth S db env = c.truth S db' env) :
    ∀ c, existsAlong parent inner hops = some c → ∀ env, c.truth S db env = c.truth S db' env := by
  induction hops generalizing parent with
  | nil => exact hinner
  | cons h rest ih =>
    rw [List.forall_mem_cons] at hlive
    intro c hc env
    rw [existsAlong, Option.some.injEq] at hc
    rw [← hc, Condition.truth_ofExpr, Condition.truth_ofExpr]
    exact Hop.truth_existsExpr S hlive.1 parent (ih hlive.2 (h.label parent)) env

/-! ## Filters -/

/-- **A filter through relations** is the same in databases with the same live rows behind each hop
of its path. -/
theorem FilterNode.truth_entry {node : FilterNode} {p : ColumnPath} {base : String} {c : Condition}
    (hlive : ∀ h ∈ p.hops, h.SameLive db db') (h : node.entry p base = .ok c) (env : Env V) :
    c.truth S db env = c.truth S db' env := by
  obtain ⟨predicate, hpredicate, h⟩ := bind_eq_ok.mp h
  have hlocal := node.compile_isLocal hpredicate
  have hrelated : (p.related base predicate).truth S db env =
      (p.related base predicate).truth S db' env := by
    have hpredicate : ∀ d, some predicate = some d → ∀ env,
        d.truth S db env = d.truth S db' env :=
      fun d hd env => Option.some.inj hd ▸ hlocal.truth_eq S env
    have hchain := truth_existsAlong S hlive base hpredicate
    unfold ColumnPath.related
    cases hexists : existsAlong base (some predicate) p.hops with
    | none => exact hlocal.truth_eq S env
    | some d => exact hchain d hexists env
  rw [← pure_eq_ok.mp h]
  split
  · next missing hmissing _ =>
    have hmissing' : missing.truth S db env = missing.truth S db' env := by
      unfold ColumnPath.missing? at hmissing
      split at hmissing
      · cases hmissing
      · next hop rest hhops =>
        rw [hhops, List.forall_mem_cons] at hlive
        have hnone : ∀ d, (none : Option Condition) = some d → ∀ env,
            d.truth S db env = d.truth S db' env := fun d hd => by cases hd
        rw [← Option.some.inj hmissing, Expr.truth_not, Expr.truth_not,
          Hop.truth_existsExpr S hlive.1 base
            (truth_existsAlong S hlive.2 (hop.label base) hnone)]
    rw [Condition.truth_addExpr S db env rfl, Condition.truth_addExpr S db' env rfl,
      Condition.truth_add S db env rfl, Condition.truth_add S db' env rfl, hrelated, hmissing']
    rfl
  · exact hrelated

/-! ## Joins -/

/-- The partners of a row behind a hop are the live rows with the right key. -/
lemma Hop.partners_eq (db : Database V) (h : Hop) (parent : String) (frames : Frames V) :
    (h.join parent).partners S db frames =
      ((h.liveRows db).filter fun row => S.compared .eq (row h.foreignKey)
        (Env.cell { frames := frames } parent h.localKey) == some true).map
          fun row => (h.label parent, row) :: frames := by
  rw [Hop.join, Join.partners, List.filter_map, Hop.liveRows, List.filter_filter]
  congr 1
  refine List.filter_congr fun row _ => ?_
  have hone := h.holds_correlation S db { frames := frames } parent row
  rw [Bool.eq_iff_iff, Bool.and_eq_true, beq_iff_eq, ← hone]
  exact decide_eq_true_iff

/-- The partners of a row are the same in databases with the same live rows. -/
lemma Hop.partners_perm {h : Hop} (hlive : h.SameLive db db') (parent : String)
    (frames : Frames V) :
    ((h.join parent).partners S db frames).Perm ((h.join parent).partners S db' frames) := by
  rw [h.partners_eq, h.partners_eq]
  exact (List.Perm.filter _ hlive).map _

/-- What a left join makes of a row is the same in databases with the same live rows. -/
lemma Hop.partnersOrNull_perm {h : Hop} (hlive : h.SameLive db db') (parent : String)
    (frames : Frames V) :
    ((h.join parent).partnersOrNull S db frames).Perm
      ((h.join parent).partnersOrNull S db' frames) := by
  have hperm := Hop.partners_perm S hlive parent frames
  unfold Join.partnersOrNull
  generalize (h.join parent).partners S db frames = found at hperm ⊢
  generalize (h.join parent).partners S db' frames = found' at hperm ⊢
  cases found with
  | nil => rw [List.nil_perm.mp hperm]
  | cons f rest =>
    cases found' with
    | nil => exact absurd (List.perm_nil.mp hperm) (List.cons_ne_nil f rest)
    | cons f' rest' => exact hperm

/-- **Joins along hops** make the same rows in two databases, if they make the same rows of each
single row. -/
theorem extended_joinsAlong_perm {extend extend' : Frames V → Join → List (Frames V)}
    {hops : List Hop}
    (h : ∀ h ∈ hops, ∀ parent frames,
      (extend frames (h.join parent)).Perm (extend' frames (h.join parent)))
    (parent : String) {rows rows' : List (Frames V)} (hrows : rows.Perm rows') :
    (extended extend rows (joinsAlong parent hops)).Perm
      (extended extend' rows' (joinsAlong parent hops)) := by
  induction hops generalizing parent rows rows' with
  | nil => exact hrows
  | cons hop rest ih =>
    rw [List.forall_mem_cons] at h
    rw [joinsAlong_cons, extended, extended]
    exact ih h.2 (hop.label parent) (hrows.flatMap fun frames _ => h.1 parent frames)

/-- Left joins along hops are the same in databases with the same live rows behind each hop. -/
theorem leftJoined_joinsAlong_perm {hops : List Hop} (hlive : ∀ h ∈ hops, h.SameLive db db')
    (parent : String) {rows rows' : List (Frames V)} (hrows : rows.Perm rows') :
    (leftJoined S db rows (joinsAlong parent hops)).Perm
      (leftJoined S db' rows' (joinsAlong parent hops)) := by
  rw [leftJoined_eq, leftJoined_eq]
  exact extended_joinsAlong_perm
    (fun h hh parent frames => Hop.partnersOrNull_perm S (hlive h hh) parent frames) parent hrows

/-- Elements that are replaced by at most one element each do not become more. -/
lemma length_flatMap_le {α β : Type} {f : α → List β} (h : ∀ a, (f a).length ≤ 1) (l : List α) :
    (l.flatMap f).length ≤ l.length := by
  induction l with
  | nil => exact Nat.le_refl _
  | cons a l ih =>
    have hone := h a
    rw [List.flatMap_cons, List.length_append, List.length_cons]
    omega

/-- There is one order of at most one element. -/
lemma eq_of_perm_of_length_le_one {α : Type} {l l' : List α} (h : l.Perm l')
    (hl : l.length ≤ 1) : l = l' := by
  cases l with
  | nil => exact (List.nil_perm.mp h).symm
  | cons a rest =>
    have hrest : rest = [] := List.eq_nil_of_length_eq_zero (by rw [List.length_cons] at hl; omega)
    rw [hrest] at h ⊢
    exact (List.singleton_perm.mp h)

/-- Joins along hops that reach at most one live row each make no more rows. -/
lemma length_extended_joinsAlong_le {hops : List Hop} (hone : ∀ h ∈ hops, h.AtMostOne S db)
    (parent : String) (rows : List (Frames V)) :
    (extended (Join.partners S db) rows (joinsAlong parent hops)).length ≤ rows.length := by
  induction hops generalizing parent rows with
  | nil => exact Nat.le_refl _
  | cons h rest ih =>
    rw [List.forall_mem_cons] at hone
    have hpartners : ∀ frames, ((h.join parent).partners S db frames).length ≤ 1 := by
      intro frames
      rw [h.partners_eq, List.length_map]
      exact hone.1 _
    rw [joinsAlong_cons, extended]
    exact Nat.le_trans (ih hone.2 (h.label parent) _) (length_flatMap_le hpartners rows)

/-! ## Sort keys -/

namespace ColumnPath

variable {p : ColumnPath} {h : Hop} {rest : List Hop}

/-- The rows that a sort key looks at: the row of the subject, joined along the hops. -/
lemma lookedUp_eq (db : Database V) (env : Env V) (base : String) (h : Hop) (rest : List Hop) :
    (joined S db ((db h.table).map fun row => (h.label base, row) :: env.frames)
      (joinsAlong (h.label base) rest)).filter (fun frames =>
        decide ((Condition.all.add (h.correlation base)).Holds S db { frames := frames })) =
      extended (Join.partners S db) [env.frames] (joinsAlong base (h :: rest)) := by
  have hlabels : (Condition.all.add (h.correlation base)).toExpr.labels ⊆
      [h.label base, base] := by
    rw [Condition.labels_add]
    exact List.append_subset.mpr ⟨List.nil_subset _, h.correlation_labels base⟩
  have hkeep : ∀ join ∈ joinsAlong (h.label base) rest, ∀ row frames,
      decide ((Condition.all.add (h.correlation base)).Holds S db
          { frames := (join.label, row) :: frames }) =
        decide ((Condition.all.add (h.correlation base)).Holds S db { frames := frames }) := by
    intro join hjoin row frames
    have hlong := length_lt_of_mem_joinsAlong hjoin
    have hbase := h.length_lt_label base
    have hnot : join.label ∉ (Condition.all.add (h.correlation base)).toExpr.labels := by
      intro hmem
      rcases List.mem_cons.mp (hlabels hmem) with heq | hmem
      · rw [heq] at hlong
        omega
      · rw [List.mem_singleton.mp hmem] at hlong
        omega
    rw [decide_eq_decide]
    exact Condition.holds_of_notMem S hnot row frames
  have hsame : ∀ frames, (Condition.all.add (h.correlation base)).Holds S db { frames := frames } ↔
      (h.correlation base).toExpr.Holds S db { frames := frames } := fun frames =>
    (Condition.holds_add? S db _ Condition.isConjunction_all (some (h.correlation base))).trans
      ⟨fun hboth => hboth.2 _ rfl,
        fun hone => ⟨Condition.holds_all S db _, fun _ hc => Option.some.inj hc ▸ hone⟩⟩
  rw [joined_eq, extended_filter (fun _ _ _ hf => Join.exists_of_mem_partners hf) hkeep,
    joinsAlong_cons, extended, List.flatMap_singleton, Hop.join, Join.partners]
  simp only [hsame]

/-- A sort key through relations is an extreme of the values at the end of the chain, or the only
one. -/
lemma eval_sortKey (db : Database V) (env : Env V) (hhops : p.hops = h :: rest) (base : String)
    (d : Direction) :
    (p.sortKey base d).eval S db env =
      let cells := (extended (Join.partners S db) [env.frames] (joinsAlong base p.hops)).map
        fun frames => (p.expr (p.leafLabel base)).eval S db { frames := frames }
      if p.hops.any fun h => h.kind = .hasMany then S.extreme (extremeFor d) cells
      else cells.head?.join := by
  have hrows := lookedUp_eq S db env base h rest
  unfold sortKey
  rw [hhops]
  dsimp only
  cases (h :: rest).any fun h => decide (h.kind = .hasMany) with
  | true =>
    rw [if_pos rfl, if_pos rfl, Expr.eval]
    simp only [Expr.beq_some_true]
    exact congrArg (fun rows => S.extreme (extremeFor d) (rows.map fun frames =>
      (p.expr (p.leafLabel base)).eval S db { frames := frames })) hrows
  | false =>
    rw [if_neg Bool.false_ne_true, if_neg Bool.false_ne_true, Expr.eval]
    simp only [Expr.beq_some_true]
    exact congrArg (fun rows => (rows.map fun frames : Frames V =>
      (p.expr (p.leafLabel base)).eval S db { frames := frames }).head?.join) hrows

/-- **Sort keys** cannot be told apart in databases with the same live rows behind each hop, if they
are extremes or the hops reach at most one live row each.

**Proof sketch.** The joins along the hops make the same rows in some other order
(`extended_joinsAlong_perm`). An extreme does not depend on the order but for values that the store
takes for equal, and of at most one row there is one order only. -/
theorem sortKey_congr (hlive : ∀ h ∈ p.hops, h.SameLive db db')
    (hone : (∀ h ∈ p.hops, h.kind ≠ .hasMany) → ∀ h ∈ p.hops, h.AtMostOne S db) (base : String)
    (d : Direction) (env : Env V) :
    S.cellOrder ((p.sortKey base d).eval S db env) ((p.sortKey base d).eval S db' env) = .eq := by
  have hleaf : ∀ frames : Frames V, (p.expr (p.leafLabel base)).eval S db { frames := frames } =
      (p.expr (p.leafLabel base)).eval S db' { frames := frames } := fun frames =>
    Expr.eval_eq_of_tables S (p.expr_isLocal (p.leafLabel base)).tables _
  cases hhops : p.hops with
  | nil =>
    rw [p.sortKey_of_hops_eq_nil hhops, Expr.eval_eq_of_tables S (p.expr_isLocal base).tables]
    exact Std.ReflCmp.compare_self
  | cons h rest =>
    have hperm := extended_joinsAlong_perm
      (fun h hh parent frames => Hop.partners_perm S (hlive h hh) parent frames) base
      (List.Perm.refl [env.frames])
    rw [eval_sortKey S db env hhops, eval_sortKey S db' env hhops]
    simp only [← hleaf]
    cases hmany : p.hops.any fun h => decide (h.kind = .hasMany) with
    | true =>
      rw [if_pos rfl, if_pos rfl]
      exact S.extreme_perm _ (hperm.map _)
    | false =>
      rw [if_neg Bool.false_ne_true, if_neg Bool.false_ne_true]
      have hnone : ∀ h ∈ p.hops, h.kind ≠ .hasMany := by simpa using hmany
      have hlength := length_extended_joinsAlong_le S (hone hnone) base [env.frames]
      rw [eq_of_perm_of_length_le_one hperm hlength]
      exact Std.ReflCmp.compare_self

end ColumnPath

end

end DataGrid
