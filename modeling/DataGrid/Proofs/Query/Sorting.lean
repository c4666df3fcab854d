import DataGrid.Proofs.Query.Grouping

/-!
# Sort orders

A sort order takes the place of the ordering that a custom filter has left, unless it has no
entries: then that ordering stays in front. Each entry puts one term, and the primary key is added
behind them where nothing orders by it yet. What results does not change when the same sort order
is applied once more.

## Main definitions

* `DataGrid.Scope.IsOn` — the scopes that operations make for an entity.
* `DataGrid.SortEntry.AsksFor` — the term that an entry stands for.

## Main results

* `DataGrid.Scope.sort_eq_of_ne_nil` — entries replace any ordering.
* `DataGrid.Scope.sort_sort` — a sort order that is applied again changes nothing.
* `DataGrid.Scope.sort_settles_order` — the ordering behind a sort order.
-/

namespace DataGrid

open Sql

/-! ## Scopes on an entity -/

namespace Scope

variable {s : Scope} {e : Entity}

/-- Operations make the scope from the fresh one on the entity. -/
def IsOn (s : Scope) (e : Entity) : Prop := ∃ ops, s = (Subject.freshScope e).applyAll ops

/-- A scope on an entity is on its table. -/
lemma IsOn.table_eq (h : s.IsOn e) : s.table = e.table := by
  obtain ⟨ops, rfl⟩ := h
  exact table_applyAll _ ops

/-- Operations name no column but the one that they order by. -/
lemma IsOn.isFaithful (h : s.IsOn e) : s.IsFaithful := by
  obtain ⟨ops, rfl⟩ := h
  exact (isFaithful_freshScope e).applyAll ops

end Scope

/-! ## The terms of entries -/

/-- The term that an entry of a sort order stands for. Only a column of the table itself gives its
name to the term. -/
inductive SortEntry.AsksFor (r : Registry) (e : Entity) (entry : SortEntry) : OrderTerm → Prop
  /-- A column of the table itself. -/
  | column {p : ColumnPath} (resolves : r.resolve e entry.column = .ok p) (hops : p.hops = [])
    (keys : p.keys = []) : AsksFor r e entry
      { expr := .column e.table p.leaf, direction := entry.direction, column := some p.leaf }
  /-- A value inside a document of the table itself. -/
  | member {p : ColumnPath} (resolves : r.resolve e entry.column = .ok p) (hops : p.hops = [])
    (keys : p.keys ≠ []) : AsksFor r e entry
      { expr := p.expr e.table, direction := entry.direction, column := none }
  /-- A value reached through relations. -/
  | related {p : ColumnPath} (resolves : r.resolve e entry.column = .ok p) (hops : p.hops ≠ []) :
    AsksFor r e entry
      { expr := p.sortKey e.table entry.direction, direction := entry.direction, column := none }

section

variable {r : Registry} {e : Entity} {entries : List SortEntry}

/-- The term of a path is what an entry for the path stands for. -/
lemma SortEntry.asksFor_orderTerm {entry : SortEntry} {p : ColumnPath}
    (hp : r.resolve e entry.column = .ok p) :
    entry.AsksFor r e (p.orderTerm e.table entry.direction) := by
  unfold ColumnPath.orderTerm ColumnPath.hasHops ColumnPath.isNested
  by_cases hhops : p.hops = []
  · rw [p.sortKey_of_hops_eq_nil hhops]
    by_cases hkeys : p.keys = []
    · simpa [hhops, hkeys, ColumnPath.expr, ColumnPath.memberAt] using
        AsksFor.column hp hhops hkeys
    · simpa [hkeys] using AsksFor.member hp hhops hkeys
  · simpa [hhops] using AsksFor.related hp hhops

/-- A sort order has no fault when all of its entries address something. -/
lemma sortTerms_fault (h : ∀ entry ∈ entries, ∃ p, r.resolve e entry.column = .ok p)
    (table : String) : (sortTerms r e table entries).2 = none := by
  induction entries with
  | nil => rfl
  | cons entry rest ih =>
    obtain ⟨⟨p, hp⟩, hrest⟩ := List.forall_mem_cons.mp h
    rw [sortTerms, hp]
    exact ih hrest

/-- The terms of a sort order without fault are what its entries stand for, one by one. -/
lemma forall₂_asksFor (h : (sortTerms r e e.table entries).2 = none) :
    List.Forall₂ (SortEntry.AsksFor r e) entries (sortTerms r e e.table entries).1 := by
  refine (forall₂_sortTerms h).imp fun entry t hterm => ?_
  obtain ⟨p, hp, rfl⟩ := hterm
  exact SortEntry.asksFor_orderTerm hp

end

/-! ## Applying sort orders -/

namespace Scope

variable {r : Registry} {e : Entity} {entries : List SortEntry}

/-- **Entries replace any ordering.** A sort order with entries makes the same of scopes that differ
in their ordering only. -/
theorem sort_eq_of_ne_nil (s : Scope) (orders : List OrderTerm) (h : entries ≠ []) :
    ({ s with orders := orders } : Scope).sort r e entries = s.sort r e entries := by
  unfold sort
  rw [if_neg (by simpa using h), if_neg (by simpa using h)]

/-- A sort order without entries adds the primary key at most. -/
lemma sort_nil (s : Scope) : s.sort r e [] = { scope := s.breakTies e } := by
  rw [sort_eq rfl, sortTerms, List.append_nil]
  rfl

/-- An ordering is completed by the primary key once. -/
lemma breakTies_breakTies (s : Scope) (e : Entity) :
    (s.breakTies e).breakTies e = s.breakTies e := by
  have hdone := s.isOrderedOn_breakTies e
  generalize s.breakTies e = completed at hdone ⊢
  rw [breakTies, if_pos]
  rwa [Bool.or_eq_true, or_iff_not_imp_right, Bool.not_eq_true]

/-- **A sort order that is applied again changes nothing**, also where an entry addresses nothing.

**Proof sketch.** With entries, the ordering that the first application leaves plays no role in the
second (`sort_eq_of_ne_nil`). Without entries, the second one finds the primary key in place. -/
theorem sort_sort (s : Scope) :
    (s.sort r e entries).scope.sort r e entries = s.sort r e entries := by
  cases entries with
  | nil => rw [sort_nil, sort_nil, breakTies_breakTies]
  | cons entry rest =>
    obtain ⟨orders, horders⟩ := s.exists_sort_eq r e (entry :: rest)
    rw [horders, s.sort_eq_of_ne_nil orders (List.cons_ne_nil entry rest)]

/-- The primary key comes behind an ordering of faithful terms exactly when rows are not grouped and
none of the terms orders by it directly. -/
lemma IsFaithful.exists_breakTies_append {s : Scope} (h : s.IsFaithful) (e : Entity) :
    ∃ tail, s.breakTies e = { s with orders := s.orders ++ tail } ∧
      (tail = [] ∨ tail = [⟨.column s.table e.primaryKey, .asc, some e.primaryKey⟩]) ∧
      (tail ≠ [] ↔ s.isGrouped = false ∧ ∀ t ∈ s.orders, ¬ t.IsDirect s.table e.primaryKey) := by
  have hopen : ¬ (s.isOrderedOn e.primaryKey || s.isGrouped) = true ↔
      s.isGrouped = false ∧ ∀ t ∈ s.orders, ¬ t.IsDirect s.table e.primaryKey := by
    rw [Bool.or_eq_true, not_or, h.isOrderedOn_iff, Bool.not_eq_true, and_comm]
    simp only [not_exists, not_and]
  unfold breakTies
  split
  · next hdone =>
    refine ⟨[], by rw [List.append_nil], .inl rfl, iff_of_false (fun hne => hne rfl) ?_⟩
    exact fun hneeded => hopen.mpr hneeded hdone
  · next hneeded =>
    exact ⟨_, rfl, .inr rfl, iff_of_true (List.cons_ne_nil _ _) (hopen.mp hneeded)⟩

/-- **The ordering behind a sort order.** On a scope that operations have made for an entity, a sort
order whose entries all address something succeeds, and it changes nothing when it is applied once
more. If it has entries, what it makes does not depend on the ordering of the scope; if it has none,
that ordering stays in front. Behind it come the terms of the entries, one by one, and then the
primary key in ascending order at most: it is there exactly when rows are not grouped and no term
before it orders by that column directly. Nothing but the ordering changes.

**Proof sketch.** The terms of the entries are there one by one (`forall₂_asksFor`). They are
faithful like those of the scope, so the names that the primary key is looked up among are those of
the columns that the terms order by (`IsFaithful.exists_breakTies_append`). -/
theorem sort_settles_order {s : Scope} (hs : s.IsOn e)
    (hentries : ∀ entry ∈ entries, ∃ p, r.resolve e entry.column = .ok p) :
    (s.sort r e entries).fault = none ∧
    (s.sort r e entries).scope.sort r e entries = s.sort r e entries ∧
    (entries ≠ [] → ∀ orders,
      ({ s with orders := orders } : Scope).sort r e entries = s.sort r e entries) ∧
    ∃ kept terms tail,
      (s.sort r e entries).scope = { s with orders := kept ++ terms ++ tail } ∧
      (entries = [] → kept = s.orders) ∧ (entries ≠ [] → kept = []) ∧
      List.Forall₂ (SortEntry.AsksFor r e) entries terms ∧
      (tail = [] ∨ tail = [⟨.column e.table e.primaryKey, .asc, some e.primaryKey⟩]) ∧
      (tail ≠ [] ↔ s.isGrouped = false ∧
        ∀ t ∈ kept ++ terms, ¬ t.IsDirect e.table e.primaryKey) := by
  have hfault := sortTerms_fault hentries s.table
  have hall := forall₂_asksFor (sortTerms_fault hentries e.table)
  have hnew := sortTerms_isFaithful r e s.table entries
  have hsort := sort_eq hfault
  rw [← hs.table_eq] at hall ⊢
  generalize (sortTerms r e s.table entries).1 = terms at hall hnew hsort
  obtain ⟨kept, hkept, hempty, hothers⟩ : ∃ kept,
      (if entries.isEmpty then s.orders else []) = kept ∧
        (entries = [] → kept = s.orders) ∧ (entries ≠ [] → kept = []) := by
    cases entries with
    | nil => exact ⟨s.orders, rfl, fun _ => rfl, fun hne => absurd rfl hne⟩
    | cons entry rest => exact ⟨[], rfl, nofun, fun _ => rfl⟩
  rw [hkept] at hsort
  -- the primary key is looked for by name, which tells what a term orders by only if it is faithful
  have hfaithful : ({ s with orders := kept ++ terms } : Scope).IsFaithful := by
    intro t ht
    rcases List.mem_append.mp ht with ht | ht
    · by_cases hnil : entries = []
      · exact hs.isFaithful t (hempty hnil ▸ ht)
      · exact nomatch hothers hnil ▸ ht
    · exact hnew t ht
  obtain ⟨tail, htail, hkey, hneeded⟩ := hfaithful.exists_breakTies_append e
  exact ⟨by rw [hsort], s.sort_sort, fun hne orders => s.sort_eq_of_ne_nil orders hne,
    kept, terms, tail, by rw [hsort, htail], hempty, hothers, hall, hkey, hneeded⟩

end Scope

/-- The flamingos as a custom filter may leave them, the newest first. -/
def Zoo.newestFirst : Scope :=
  (Subject.freshScope Zoo.flamingos).applyAll [.keepNotNull "species", .orderBy "created_at" .desc]

/-- A sort order by the keeper, by a value inside a document and by a column of the flamingos. -/
def Zoo.keeperMoodWeight : List SortEntry :=
  [⟨"keeper.name", .asc⟩, ⟨"custom_properties.nature.mood", .desc⟩, ⟨"weight", .asc⟩]

/-- Flamingos that were the newest first, put into another order. Only the last entry and the
primary key behind it order by columns of the flamingos. -/
theorem Scope.sort_settles_order_flamingos :
    ∃ r, Zoo.registry = .ok r ∧ Zoo.newestFirst.IsOn Zoo.flamingos ∧
      (∀ entry ∈ Zoo.keeperMoodWeight, ∃ p, r.resolve Zoo.flamingos entry.column = .ok p) ∧
      (Zoo.newestFirst.sort r Zoo.flamingos Zoo.keeperMoodWeight).scope.orders.map
        OrderTerm.column = [none, none, some "weight", some "id"] ∧
      (Zoo.newestFirst.sort r Zoo.flamingos Zoo.keeperMoodWeight).fault = none ∧
      (Zoo.newestFirst.sort r Zoo.flamingos Zoo.keeperMoodWeight).scope.sort r Zoo.flamingos
        Zoo.keeperMoodWeight = Zoo.newestFirst.sort r Zoo.flamingos Zoo.keeperMoodWeight ∧
      ∀ orders, ({ Zoo.newestFirst with orders := orders } : Scope).sort r Zoo.flamingos
        Zoo.keeperMoodWeight = Zoo.newestFirst.sort r Zoo.flamingos Zoo.keeperMoodWeight := by
  have hmade : Zoo.newestFirst.IsOn Zoo.flamingos := ⟨_, rfl⟩
  obtain ⟨r, hr, hentries, hcolumns⟩ : ∃ r, Zoo.registry = .ok r ∧
      (∀ entry ∈ Zoo.keeperMoodWeight, ∃ p, r.resolve Zoo.flamingos entry.column = .ok p) ∧
      (Zoo.newestFirst.sort r Zoo.flamingos Zoo.keeperMoodWeight).scope.orders.map
        OrderTerm.column = [none, none, some "weight", some "id"] := by
    refine ⟨_, rfl, ?_, rfl⟩
    simp only [Zoo.keeperMoodWeight, List.forall_mem_cons]
    exact ⟨⟨_, rfl⟩, ⟨_, rfl⟩, ⟨_, rfl⟩, fun _ h => nomatch h⟩
  obtain ⟨hfault, htwice, hothers, -⟩ := Scope.sort_settles_order hmade hentries
  exact ⟨r, hr, hmade, hentries, hcolumns, hfault, htwice, hothers (List.cons_ne_nil _ _)⟩

end DataGrid
