import DataGrid.Proofs.Query.Restriction
import Mathlib.Data.List.Pairwise

/-!
# The ordering of a compiled request

However a custom filter has ordered the rows before, the ordering of a compiled request without
groups ends up with the primary key among its columns. A term is taken for a column of the subject
only if it really is one, so no relation and no key of a document can stand in for it.

## Main definitions

* `DataGrid.OrderTerm.IsDirect` — a term orders by a column of the subject and carries its name.
* `DataGrid.Scope.IsFaithful` — every term that carries the name of a column orders by it.
* `DataGrid.Sql.KeyUnique` — a column identifies the rows of a table.

## Main results

* `DataGrid.Registry.Stages.exists_key_term` — the primary key is among the ordering terms.
* `DataGrid.Scope.eq_of_arranged` — rows that are arranged by such an ordering can be arranged in
  one way only.
-/

namespace DataGrid

open Sql

/-! ## Faithful terms -/

/-- The term orders by a column of the table itself, and carries its name. -/
structure OrderTerm.IsDirect (t : OrderTerm) (table name : String) : Prop where
  expr_eq : t.expr = .column table name
  column_eq : t.column = some name

/-- A faithful term with the name of a column orders by the column. -/
lemma OrderTerm.IsFaithful.isDirect_iff {t : OrderTerm} {table : String}
    (h : t.IsFaithful table) (name : String) :
    t.IsDirect table name ↔ t.column = some name :=
  ⟨IsDirect.column_eq, fun hname => ⟨h name hname, hname⟩⟩

/-- Every ordering term that carries the name of a column orders by that column of the subject. -/
def Scope.IsFaithful (s : Scope) : Prop := ∀ t ∈ s.orders, t.IsFaithful s.table

namespace Scope

variable {s : Scope}

/-- An operation appends a faithful term, or drops terms, or leaves them. -/
lemma IsFaithful.apply (h : s.IsFaithful) (op : ScopeChange) : (s.apply op).IsFaithful := by
  cases op with
  | orderBy name d =>
    intro t ht
    rcases List.mem_append.mp ht with ht | ht
    · exact h t ht
    · rw [List.mem_singleton.mp ht]
      intro other hother
      exact congrArg (Expr.column s.table) (Option.some.inj hother)
  | orderByExpr e d =>
    intro t ht
    rcases List.mem_append.mp ht with ht | ht
    · exact h t ht
    · rw [List.mem_singleton.mp ht]
      exact fun _ hname => nomatch hname
  | clearOrder => exact fun _ ht => nomatch ht
  | _ => exact h

/-- Operations leave all terms faithful. -/
theorem IsFaithful.applyAll (h : s.IsFaithful) (ops : List ScopeChange) :
    (s.applyAll ops).IsFaithful := by
  induction ops generalizing s with
  | nil => exact h
  | cons op ops ih => exact ih (h.apply op)

/-- The fresh scope on an entity has no terms. -/
lemma isFaithful_freshScope (e : Entity) : (Subject.freshScope e).IsFaithful :=
  fun _ ht => nomatch ht

/-- Ordering terms come from columns or from operations that bring an expression. -/
lemma mem_orders_applyAll {ops : List ScopeChange} {t : OrderTerm}
    (ht : t ∈ (s.applyAll ops).orders) :
    t ∈ s.orders ∨ (∃ name, t.expr = .column s.table name) ∨
      ∃ d, .orderByExpr t.expr d ∈ ops := by
  induction ops generalizing s with
  | nil => exact .inl ht
  | cons op ops ih =>
    rcases ih ht with ht | ⟨name, hname⟩ | ⟨d, hd⟩
    · cases op with
      | orderBy name d =>
        rcases List.mem_append.mp ht with ht | ht
        · exact .inl ht
        · exact .inr (.inl ⟨name, List.mem_singleton.mp ht ▸ rfl⟩)
      | orderByExpr e d =>
        rcases List.mem_append.mp ht with ht | ht
        · exact .inl ht
        · exact .inr (.inr ⟨d, List.mem_singleton.mp ht ▸ List.mem_cons_self⟩)
      | clearOrder => exact nomatch ht
      | _ => exact .inl ht
    · exact .inr (.inl ⟨name, s.table_apply op ▸ hname⟩)
    · exact .inr (.inr ⟨d, List.mem_cons_of_mem _ hd⟩)

/-- The terms of a sort order are the sort keys of its entries. -/
lemma mem_sortTerms {r : Registry} {e : Entity} {table : String} {entries : List SortEntry}
    {t : OrderTerm} (ht : t ∈ (sortTerms r e table entries).1) :
    ∃ entry ∈ entries, ∃ p, r.resolve e entry.column = .ok p ∧
      t.expr = p.sortKey table entry.direction := by
  induction entries with
  | nil => simp [sortTerms] at ht
  | cons entry rest ih =>
    rw [sortTerms] at ht
    split at ht
    · exact absurd ht List.not_mem_nil
    · next p hp =>
      rcases List.mem_cons.mp ht with rfl | ht
      · exact ⟨entry, List.mem_cons_self, p, hp, rfl⟩
      · obtain ⟨entry', hentry, hrest⟩ := ih ht
        exact ⟨entry', List.mem_cons_of_mem _ hentry, hrest⟩

/-- The primary key adds a column to the ordering at most. -/
lemma mem_orders_breakTies {e : Entity} {t : OrderTerm} (ht : t ∈ (s.breakTies e).orders) :
    t ∈ s.orders ∨ t.expr = .column s.table e.primaryKey := by
  unfold breakTies at ht
  split at ht
  · exact .inl ht
  · rcases List.mem_append.mp ht with ht | ht
    · exact .inl ht
    · exact .inr (List.mem_singleton.mp ht ▸ rfl)

/-- Ordering terms behind a sort order are sort keys of its entries, besides those that were there
and the primary key. -/
lemma mem_orders_sort {r : Registry} {e : Entity} {entries : List SortEntry} {t : OrderTerm}
    (ht : t ∈ (s.sort r e entries).scope.orders) :
    t ∈ s.orders ∨ t.expr = .column s.table e.primaryKey ∨
      ∃ entry ∈ entries, ∃ p, r.resolve e entry.column = .ok p ∧
        t.expr = p.sortKey s.table entry.direction := by
  have hterms : ∀ t ∈ (if entries.isEmpty then s.orders else []) ++
      (sortTerms r e s.table entries).1, t ∈ s.orders ∨ ∃ entry ∈ entries, ∃ p,
        r.resolve e entry.column = .ok p ∧ t.expr = p.sortKey s.table entry.direction := by
    intro t ht
    rcases List.mem_append.mp ht with ht | ht
    · split at ht
      · exact .inl ht
      · exact nomatch ht
    · exact .inr (mem_sortTerms ht)
  unfold sort at ht
  generalize sortTerms r e s.table entries = found at ht hterms
  obtain ⟨terms, fault⟩ := found
  cases fault with
  | some f =>
    rcases hterms t ht with hold | hentry
    · exact .inl hold
    · exact .inr (.inr hentry)
  | none =>
    rcases mem_orders_breakTies ht with ht | hkey
    · rcases hterms t ht with hold | hentry
      · exact .inl hold
      · exact .inr (.inr hentry)
    · exact .inr (.inl hkey)

/-- An order that was completed by the primary key orders by it, unless rows are grouped. -/
lemma isOrderedOn_breakTies (s : Scope) (e : Entity) (hgroup : (s.breakTies e).isGrouped = false) :
    (s.breakTies e).isOrderedOn e.primaryKey = true := by
  unfold breakTies at hgroup ⊢
  split at hgroup
  · next h =>
    rw [if_pos h]
    rw [hgroup, Bool.or_false] at h
    exact h
  · next h =>
    rw [if_neg h, isOrderedOn, orderBy, List.any_append]
    simp

/-- A faithful scope orders by a column when one of its terms does so directly. -/
lemma IsFaithful.isOrderedOn_iff (h : s.IsFaithful) {name : String} :
    s.isOrderedOn name = true ↔ ∃ t ∈ s.orders, t.IsDirect s.table name := by
  rw [isOrderedOn, List.any_eq_true]
  refine exists_congr fun t => and_congr_right fun ht => ?_
  rw [beq_iff_eq, (h t ht).isDirect_iff]

/-- A faithful scope that orders by a column has it among its terms. -/
lemma IsFaithful.exists_column_term (h : s.IsFaithful) {name : String}
    (ho : s.isOrderedOn name = true) :
    ∃ d, (s.column name, d) ∈ s.pageStatement.orders := by
  obtain ⟨t, ht, hdirect⟩ := h.isOrderedOn_iff.mp ho
  refine ⟨t.direction, List.mem_map.mpr ⟨t, ht, ?_⟩⟩
  rw [hdirect.expr_eq, column]

end Scope

/-- **The primary key is among the ordering terms** of every compiled request without groups.

**Proof sketch.** All terms are faithful from the first operation to the last. The sort order is the
last stage that touches the ordering, and it ends with the primary key unless some term carries its
name already; that term then orders by it. -/
theorem Registry.Stages.exists_key_term {r : Registry} {subject : Subject} {request : Request}
    {q : Query} {start : Scope} {conditions : List Condition} {selected : List ScopeChange}
    (h : r.Stages subject request q start conditions selected)
    (hgroup : q.scope.isGrouped = false) :
    ∃ d, (q.scope.column subject.entity.primaryKey, d) ∈ q.scope.pageStatement.orders := by
  obtain ⟨ops, hscope, -⟩ := h.exists_operations
  generalize hmade : (Subject.freshScope subject.entity).applyAll ops = made at hscope
  have hmade' : made.IsFaithful :=
    hmade ▸ (Scope.isFaithful_freshScope subject.entity).applyAll ops
  have hfaithful : (made.sort r subject.entity request.sorts).scope.IsFaithful := by
    rw [Scope.sort_scope]
    exact hmade'.applyAll _
  have htable : made.table = start.table := by
    rw [← hmade, Scope.table_applyAll]
    exact h.start_spec.1.symm
  have hsorts := h.sorts
  rw [← htable] at hsorts
  have horders := congrArg Progress.scope (Scope.sort_eq hsorts)
  obtain ⟨offset, limit, hwindow⟩ :=
    (made.sort r subject.entity request.sorts).scope.exists_windowFrom_eq request
  rw [hwindow] at hscope
  rw [hscope] at hgroup ⊢
  have hordered : (made.sort r subject.entity request.sorts).scope.isOrderedOn
      subject.entity.primaryKey = true := by
    rw [horders] at hgroup ⊢
    exact Scope.isOrderedOn_breakTies _ _ hgroup
  exact hfaithful.exists_column_term hordered

/-! ## Arrangements by a key -/

section

variable {V : Type} (S : Scalars V) (db : Database V)

/-- A column identifies the rows of a table: it is never null, and no two rows have the same value
in it. -/
structure Sql.KeyUnique (rows : List (Row V)) (key : String) : Prop where
  notNull : ∀ row ∈ rows, row key ≠ none
  unique : rows.Pairwise fun a b =>
    ∀ v w, a key = some v → b key = some w → S.order v w ≠ .eq

/-- Rows with the same key are the same row. -/
lemma Sql.KeyUnique.eq_of_same {rows : List (Row V)} {key : String} (h : KeyUnique S rows key)
    {a b : Row V} (ha : a ∈ rows) (hb : b ∈ rows)
    (hab : S.cellOrder (a key) (b key) = .eq) : a = b := by
  have hpair : rows.Pairwise fun a b => S.cellOrder (a key) (b key) = .eq → a = b := by
    refine h.unique.imp_of_mem fun {a b} ha hb hne heq => ?_
    obtain ⟨v, hv⟩ := Option.ne_none_iff_exists'.mp (h.notNull a ha)
    obtain ⟨w, hw⟩ := Option.ne_none_iff_exists'.mp (h.notNull b hb)
    rw [hv, hw] at heq
    exact absurd heq (hne v w hv hw)
  have hsymm : Std.Symm fun a b : Row V => S.cellOrder (a key) (b key) = .eq → a = b :=
    ⟨fun _ _ h heq => (h (Std.OrientedCmp.eq_symm heq)).symm⟩
  exact hpair.forall_of_forall (fun _ _ _ => rfl) ha hb hab

namespace Scope

variable {s : Scope}

/-- The rows of a page without groups are those of the table that the restriction holds of. -/
lemma mem_found_page {f : Frames V} (h : f ∈ s.pageStatement.found S db) :
    ∃ row ∈ db s.table, f = [(s.table, row)] := by
  obtain ⟨row, hrow, hf⟩ := List.mem_map.mp (List.mem_filter.mp h).1
  exact ⟨row, hrow, hf.symm⟩

/-- **A key leaves one arrangement.** Rows that are arranged by an ordering with a column that
identifies them can be arranged in one way only. -/
theorem eq_of_arranged {key : String} {d : Direction}
    (hterm : (s.column key, d) ∈ s.pageStatement.orders) (hunique : KeyUnique S (db s.table) key)
    {l l' : List (Frames V)} (hl : l.Perm (s.pageStatement.found S db))
    (hl' : l'.Perm (s.pageStatement.found S db))
    (ha : s.pageStatement.Arranged S db (l.map fun f => [f]))
    (ha' : s.pageStatement.Arranged S db (l'.map fun f => [f])) : l = l' := by
  refine List.Perm.eq_of_pairwise (fun f g hf hg hfg hgf => ?_) (List.pairwise_map.mp ha)
    (List.pairwise_map.mp ha') (hl.trans hl'.symm)
  obtain ⟨a, ha, rfl⟩ := s.mem_found_page S db (hl.mem_iff.mp hf)
  obtain ⟨b, hb, rfl⟩ := s.mem_found_page S db (hl'.mem_iff.mp hg)
  have heq := s.pageStatement.key_eq_of_orderUnits_eq S db
    (Std.OrientedCmp.isLE_antisymm hfg hgf) hterm
  have hcell : ∀ row : Row V, s.pageStatement.key S db (s.column key) [[(s.table, row)]] =
      row key := by
    intro row
    rw [Select.key, column, Expr.eval, Select.env]
    exact Env.cell_ofRow s.table key row
  rw [hcell, hcell] at heq
  rw [hunique.eq_of_same S ha hb heq]

end Scope

end

end DataGrid
