import DataGrid.Proofs.Store.Evaluation
import Mathlib.Data.List.Perm.Subperm

/-!
# Results of statements

What a whole statement returns: its rows are joined, filtered, grouped, made distinct, ordered and
cut to a window. The store is free to read rows in any order and to arrange rows that an ordering
does not tell apart as it likes, so a statement may have several results, and what is said of its
result is said of each of them.

## Main definitions

* `DataGrid.Sql.Select.found` — the rows that a statement ranges over, joined and filtered.
* `DataGrid.Sql.Select.units` — the groups of rows that become one row of the result each.
* `DataGrid.Sql.Select.Returns`, `DataGrid.Sql.Statement.Returns` — the results of a statement.

## Main results

* `DataGrid.Sql.Select.exists_returns` — every statement has a result.
* `DataGrid.Sql.distinctBy_length_perm` — the number of distinct elements does not depend on the
  order of reading.

## Implementation notes

Aggregates without groups run over all rows and make one row of them. The store refuses a whole row
beside such an aggregate; a statement that lists both is read row by row.
-/

namespace DataGrid.Sql

/-! ## Distinct elements -/

section

variable {α : Type}

/-- Of elements that are the same only the first. -/
def distinctBy (same : α → α → Bool) : List α → List α
  | [] => []
  | a :: rest => a :: (distinctBy same rest).filter fun b => !same a b

/-- Distinct elements are elements. -/
lemma mem_of_mem_distinctBy {same : α → α → Bool} {a : α} {l : List α}
    (h : a ∈ distinctBy same l) : a ∈ l := by
  induction l with
  | nil => exact h
  | cons b rest ih =>
    rcases List.mem_cons.mp h with rfl | h
    · exact List.mem_cons_self
    · exact List.mem_cons_of_mem _ (ih (List.mem_filter.mp h).1)

/-- Of distinct elements no two are the same. -/
lemma pairwise_distinctBy (same : α → α → Bool) (l : List α) :
    (distinctBy same l).Pairwise fun a b => same a b = false := by
  induction l with
  | nil => exact List.Pairwise.nil
  | cons a rest ih =>
    refine List.pairwise_cons.mpr ⟨fun b hb => ?_, ih.filter _⟩
    simpa using (List.mem_filter.mp hb).2

/-- Each element is the same as one of the distinct ones. -/
lemma exists_mem_distinctBy {same : α → α → Bool} (hrefl : ∀ a, same a a = true)
    (htrans : ∀ a b c, same a b = true → same b c = true → same a c = true) {a : α} {l : List α}
    (h : a ∈ l) : ∃ b ∈ distinctBy same l, same b a = true := by
  induction l with
  | nil => simp at h
  | cons b rest ih =>
    rcases List.mem_cons.mp h with rfl | h
    · exact ⟨a, List.mem_cons_self, hrefl a⟩
    · obtain ⟨c, hc, hca⟩ := ih h
      by_cases hbc : same b c = true
      · exact ⟨b, List.mem_cons_self, htrans b c a hbc hca⟩
      · exact ⟨c, List.mem_cons_of_mem _ (List.mem_filter.mpr ⟨hc, by simpa using hbc⟩), hca⟩

/-- Elements of which no two are the same are at most as many as those that stand for them.

**Proof sketch.** Each of them chooses one that stands for it. Two that chose the same one would be
the same themselves, so the chosen ones are as many and without repetition. -/
lemma length_le_of_represented {same : α → α → Bool}
    (hsymm : ∀ a b, same a b = true → same b a = true)
    (htrans : ∀ a b c, same a b = true → same b c = true → same a c = true) {l l' : List α}
    (hl : l.Pairwise fun a b => same a b = false) (h : ∀ a ∈ l, ∃ b ∈ l', same b a = true) :
    l.length ≤ l'.length := by
  classical
  choose! f hmem hsame using h
  have hnodup : (l.map f).Nodup := by
    refine List.pairwise_map.mpr (hl.imp_of_mem fun {a b} ha hb hab heq => ?_)
    have hb' := hsame b hb
    rw [← heq] at hb'
    have hab' := htrans a (f a) b (hsymm _ _ (hsame a ha)) hb'
    rw [hab] at hab'
    exact Bool.false_ne_true hab'
  have hsub : l.map f ⊆ l' := fun b hb => by
    obtain ⟨a, ha, rfl⟩ := List.mem_map.mp hb
    exact hmem a ha
  simpa using (List.subperm_of_subset hnodup hsub).length_le

/-- The number of distinct elements does not depend on the order of reading. -/
theorem distinctBy_length_perm {same : α → α → Bool} (hrefl : ∀ a, same a a = true)
    (hsymm : ∀ a b, same a b = true → same b a = true)
    (htrans : ∀ a b c, same a b = true → same b c = true → same a c = true) {l l' : List α}
    (h : l.Perm l') : (distinctBy same l).length = (distinctBy same l').length := by
  have hle : ∀ {k k' : List α}, k.Perm k' →
      (distinctBy same k).length ≤ (distinctBy same k').length := fun {k k'} hk =>
    length_le_of_represented hsymm htrans (pairwise_distinctBy same k) fun a ha =>
      exists_mem_distinctBy hrefl htrans (hk.mem_iff.mp (mem_of_mem_distinctBy ha))
  exact Nat.le_antisymm (hle h) (hle h.symm)

end

/-! ## The cells of a result -/

/-- A cell of a result: a value, or a whole row. -/
inductive Cell (V : Type) where
  | value (v : Option V)
  | row (r : Row V)

variable {V : Type} (S : Scalars V)

/-- Whether two cells of a result count as one in a list of distinct results; whole rows are not
compared. -/
def Cell.same : Cell V → Cell V → Bool
  | .value v, .value w => S.same v w
  | _, _ => false

/-- Whether the cells of two results count as one. -/
def sameCells : List (Cell V) → List (Cell V) → Bool
  | [], [] => true
  | a :: as, b :: bs => a.same S b && sameCells as bs
  | _, _ => false

/-- Whether two tuples fall together in a group. -/
def sameTuple : List (Option V) → List (Option V) → Bool
  | [], [] => true
  | a :: as, b :: bs => S.same a b && sameTuple as bs
  | _, _ => false

/-- A tuple falls together with itself. -/
lemma sameTuple_refl (t : List (Option V)) : sameTuple S t t = true := by
  induction t with
  | nil => rfl
  | cons a t ih => rw [sameTuple, S.same_refl, ih, Bool.and_self]

/-- Tuples fall together in either order. -/
lemma sameTuple_symm {t t' : List (Option V)} (h : sameTuple S t t' = true) :
    sameTuple S t' t = true := by
  induction t generalizing t' with
  | nil =>
    cases t' with
    | nil => rfl
    | cons b t' => cases h
  | cons a t ih =>
    cases t' with
    | nil => cases h
    | cons b t' =>
      rw [sameTuple, Bool.and_eq_true] at h ⊢
      exact ⟨S.same_symm h.1, ih h.2⟩

/-- Tuples that fall together with one tuple fall together. -/
lemma sameTuple_trans {t t' t'' : List (Option V)} (h : sameTuple S t t' = true)
    (h' : sameTuple S t' t'' = true) : sameTuple S t t'' = true := by
  induction t generalizing t' t'' with
  | nil =>
    cases t' with
    | nil => exact h'
    | cons b t' => cases h
  | cons a t ih =>
    cases t' with
    | nil => cases h
    | cons b t' =>
      cases t'' with
      | nil => cases h'
      | cons c t'' =>
        rw [sameTuple, Bool.and_eq_true] at h h' ⊢
        exact ⟨S.same_trans h.1 h'.1, ih h.2 h'.2⟩

/-- The row all of whose cells are null, which stands for a missing partner in a left join. -/
def nullRow : Row V := fun _ => none

mutual

/-- Whether an aggregate stands in an expression outside its subqueries. -/
def Expr.aggregates : Expr → Bool
  | .countRows => true
  | .extreme _ _ => true
  | .cast e _ => e.aggregates
  | .member e _ _ => e.aggregates
  | .compare _ left right => left.aggregates || right.aggregates
  | .isNull _ e => e.aggregates
  | .isIn _ e _ => e.aggregates
  | .like _ e _ => e.aggregates
  | .not e => e.aggregates
  | .group _ _ terms => anyAggregates terms
  | _ => false

/-- Whether an aggregate stands in one of several expressions. -/
def anyAggregates : List Expr → Bool
  | [] => false
  | e :: rest => e.aggregates || anyAggregates rest

end

/-- Whether an item of a SELECT list is an aggregate. -/
def Output.aggregates : Output → Bool
  | .row _ => false
  | .expr e => e.aggregates
  | .named e _ => e.aggregates

/-- Whether an item of a SELECT list is a whole row. -/
def Output.isRow : Output → Bool
  | .row _ => true
  | _ => false

/-! ## Statements -/

section

variable (db : Database V)

/-- Rows joined to further tables; a row without partner is joined to nulls. -/
def leftJoined (rows : List (Frames V)) : List Join → List (Frames V)
  | [] => rows
  | .mk table label on :: rest =>
    leftJoined
      (rows.flatMap fun frames =>
        match ((db table).map fun row => (label, row) :: frames).filter
          fun frames => on.Holds S db { frames := frames } with
        | [] => [(label, nullRow) :: frames]
        | partners => partners)
      rest

namespace Select

variable (s : Select)

/-- Whether the filter of a statement keeps a row. -/
def keeps (frames : Frames V) : Bool :=
  match s.filter with
  | none => true
  | some c => c.Holds S db { frames := frames }

/-- The rows of a statement, joined and filtered. -/
def found : List (Frames V) :=
  (leftJoined S db ((db s.table).map fun row => [(s.table, row)]) s.joins).filter (s.keeps S db)

/-- The environment of a group of rows. All of its rows agree on what may stand outside of
aggregates, and the first one stands for them. -/
def env (unit : List (Frames V)) : Env V where
  frames := unit.headD []
  peers := unit

/-- The group columns of a row. -/
def tuple (frames : Frames V) : List (Option V) :=
  s.groups.map fun e => e.eval S db { frames := frames }

/-- Whether a statement makes one row of all rows. -/
def isTotal : Bool := s.outputs.any Output.aggregates && !s.outputs.any Output.isRow

/-- The cells that a group of rows becomes. -/
def cells (unit : List (Frames V)) : List (Cell V) :=
  s.outputs.map fun
    | .row table => .row ((Keyed.find? table (env unit).frames).getD nullRow)
    | .expr e => .value (e.eval S db (env unit))
    | .named e _ => .value (e.eval S db (env unit))

/-- The named output columns that a group of rows becomes. -/
def names (unit : List (Frames V)) : List (String × Option V) :=
  s.outputs.filterMap fun
    | .named e name => some (name, e.eval S db (env unit))
    | _ => none

/-- The groups of rows, one for each tuple of the group columns; without groups each row is a group
of its own, unless aggregates make one row of all. -/
def groupsOf (rows : List (Frames V)) : List (List (Frames V)) :=
  if s.groups.isEmpty then
    if s.isTotal then [rows] else rows.map fun frames => [frames]
  else
    (distinctBy (sameTuple S) (rows.map (s.tuple S db))).map fun t =>
      rows.filter fun frames => sameTuple S (s.tuple S db frames) t

/-- The groups of rows that become one row of the result each. -/
def units (rows : List (Frames V)) : List (List (Frames V)) :=
  if s.distinct then
    distinctBy (fun u u' => sameCells S (s.cells S db u) (s.cells S db u')) (s.groupsOf S db rows)
  else s.groupsOf S db rows

/-- The cell of an ordering term for a group of rows. -/
def key (e : Expr) (unit : List (Frames V)) : Option V :=
  e.eval S db { env unit with outputs := s.names S db unit }

/-- The order of two groups by one term after the other. -/
def orderUnits : List (Expr × Direction) → List (Frames V) → List (Frames V) → Ordering
  | [] => fun _ _ => .eq
  | (e, .asc) :: rest =>
    compareLex (fun u u' => S.cellOrder (s.key S db e u) (s.key S db e u')) (orderUnits rest)
  | (e, .desc) :: rest =>
    compareLex (fun u u' => S.cellOrder (s.key S db e u') (s.key S db e u)) (orderUnits rest)

/-- Whether groups are arranged as the ordering of the statement asks. -/
def Arranged (arranged : List (List (Frames V))) : Prop :=
  arranged.Pairwise fun u u' => (s.orderUnits S db s.orders u u').isLE

/-- The part of a list that lies in the window of the statement. -/
def window {α : Type} (items : List α) : List α :=
  let rest := items.drop ((s.offset.map UInt64.toNat).getD 0)
  match s.limit with
  | some n => rest.take n.toNat
  | none => rest

/-- What a statement may return: its rows are read in some order, and the groups are arranged in
some way that the ordering allows. -/
def Returns (result : List (List (Cell V))) : Prop :=
  ∃ scan, scan.Perm (s.found S db) ∧
    ∃ arranged, arranged.Perm (s.units S db scan) ∧ s.Arranged S db arranged ∧
      result = (s.window arranged).map (s.cells S db)

end Select

/-- What a whole statement may return. -/
def Statement.Returns (result : List (List (Cell V))) : Statement → Prop
  | .select s => s.Returns S db result
  | .countOf s _ =>
    ∃ rows, s.Returns S db rows ∧ result = [[.value (some (S.ofInt rows.length))]]

/-- The part of a statement that finds rows. -/
def Statement.body : Statement → Select
  | .select s => s
  | .countOf s _ => s

/-! ## Arrangements -/

/-- Elements that are compared by an image of theirs are compared by a preorder. -/
lemma transCmp_comap {α β : Type} (f : α → β) (cmp : β → β → Ordering) [h : Std.TransCmp cmp] :
    Std.TransCmp fun a b => cmp (f a) (f b) where
  eq_swap := h.eq_swap
  isLE_trans := h.isLE_trans

namespace Select

variable (s : Select)

/-- Only the outputs of a statement matter to its ordering terms. -/
lemma orderUnits_congr {s s' : Select} (h : s.outputs = s'.outputs)
    (terms : List (Expr × Direction)) :
    s.orderUnits S db terms = s'.orderUnits S db terms := by
  have hkey : s.key S db = s'.key S db := by
    funext e u
    rw [key, key, names, names, h]
  induction terms with
  | nil => rfl
  | cons term rest ih =>
    obtain ⟨e, d⟩ := term
    cases d <;> rw [orderUnits, orderUnits, ih, hkey]

/-- The ordering of a statement is a preorder on groups of rows. -/
instance orderUnits_transCmp (terms : List (Expr × Direction)) :
    Std.TransCmp (s.orderUnits S db terms) := by
  induction terms with
  | nil => exact { eq_swap := rfl, isLE_trans := fun _ _ => rfl }
  | cons term rest ih =>
    obtain ⟨e, d⟩ := term
    have hkey := transCmp_comap (s.key S db e) S.cellOrder
    cases d with
    | asc => exact inferInstanceAs (Std.TransCmp (compareLex _ _))
    | desc =>
      have hopposite : Std.TransCmp fun u u' =>
          S.cellOrder (s.key S db e u') (s.key S db e u) := Std.TransCmp.opposite
      exact inferInstanceAs (Std.TransCmp (compareLex _ _))

/-- Groups that the ordering does not tell apart have the same key by each of its terms. -/
lemma key_eq_of_orderUnits_eq {terms : List (Expr × Direction)} {u u' : List (Frames V)}
    (h : s.orderUnits S db terms u u' = .eq) {e : Expr} {d : Direction} (he : (e, d) ∈ terms) :
    S.cellOrder (s.key S db e u) (s.key S db e u') = .eq := by
  induction terms with
  | nil => cases he
  | cons term rest ih =>
    obtain ⟨e', d'⟩ := term
    have hboth : s.orderUnits S db [(e', d')] u u' = .eq ∧ s.orderUnits S db rest u u' = .eq := by
      cases d' <;> simpa [orderUnits, compareLex, Ordering.then_eq_eq] using h
    rcases List.mem_cons.mp he with heq | he
    · rw [Prod.mk.injEq] at heq
      obtain ⟨rfl, rfl⟩ := heq
      have hfirst := hboth.1
      cases d with
      | asc => simpa [orderUnits, compareLex] using hfirst
      | desc =>
        have hback : S.cellOrder (s.key S db e u') (s.key S db e u) = .eq := by
          simpa [orderUnits, compareLex] using hfirst
        exact Std.OrientedCmp.eq_symm hback
    · exact ih hboth.2 he

/-- Groups can always be arranged as the ordering asks. -/
theorem exists_arranged (units : List (List (Frames V))) :
    ∃ arranged, arranged.Perm units ∧ s.Arranged S db arranged := by
  have htrans : ∀ u v w, (s.orderUnits S db s.orders u v).isLE →
      (s.orderUnits S db s.orders v w).isLE → (s.orderUnits S db s.orders u w).isLE :=
    fun _ _ _ => Std.TransCmp.isLE_trans
  have htotal : ∀ u v, (s.orderUnits S db s.orders u v).isLE ||
      (s.orderUnits S db s.orders v u).isLE := by
    intro u v
    rw [← Std.OrientedCmp.isGE_eq_isLE]
    cases s.orderUnits S db s.orders v u <;> rfl
  exact ⟨_, List.mergeSort_perm units _, List.pairwise_mergeSort htrans htotal units⟩

/-- The group columns of rows fall into as many tuples as the statement makes groups, in whatever
order the rows are read. -/
lemma length_groupsOf {rows rows' : List (Frames V)} (h : rows.Perm rows')
    (hgroups : s.groups.isEmpty = false) :
    (s.groupsOf S db rows).length =
      (distinctBy (sameTuple S) (rows'.map (s.tuple S db))).length := by
  rw [groupsOf, hgroups, if_neg Bool.false_ne_true, List.length_map]
  exact distinctBy_length_perm (sameTuple_refl S) (fun _ _ => sameTuple_symm S)
    (fun _ _ _ => sameTuple_trans S) (h.map _)

/-- A statement without window returns one row for each group, duplicates aside. -/
lemma length_of_returns {s : Select} (hdistinct : s.distinct = false) (hlimit : s.limit = none)
    (hoffset : s.offset = none) {result : List (List (Cell V))} (h : s.Returns S db result) :
    ∃ scan, scan.Perm (s.found S db) ∧ result.length = (s.groupsOf S db scan).length := by
  obtain ⟨scan, hscan, arranged, hunits, -, rfl⟩ := h
  have hwindow : s.window arranged = arranged := by
    rw [window, hlimit, hoffset]
    rfl
  refine ⟨scan, hscan, ?_⟩
  rw [hwindow, List.length_map, hunits.length_eq, units, hdistinct, if_neg Bool.false_ne_true]

/-- **Every statement has a result.** -/
theorem exists_returns : ∃ result, s.Returns S db result := by
  obtain ⟨arranged, hperm, harranged⟩ := s.exists_arranged S db (s.units S db (s.found S db))
  exact ⟨_, s.found S db, List.Perm.refl _, arranged, hperm, harranged, rfl⟩

end Select

end

end DataGrid.Sql
