import DataGrid.Proofs.Query.Chains
import DataGrid.Proofs.Query.Ordering

/-!
# Pages

The pages of a request without groups are slices of one list. The ordering of the request leaves no
two arrangements of the rows, so pages that are asked for one after the other fit together.

## Main definitions

* `DataGrid.slice` — the part of a list from one position up to another one.
* `DataGrid.Registry.Pages` — what a request may return for a window.
* `DataGrid.Tiling` — pages whose windows follow one another.

## Main results

* `DataGrid.Registry.pages_iff` — all pages are slices of one list.
* `DataGrid.Registry.pages_fit_together` — pages are determined, gap-free and without repetition.
-/

namespace DataGrid

open Sql

/-! ## Slices -/

section

variable {α : Type} {l : List α} {a b c : Nat}

/-- The elements from position `a` up to, but not including, position `b`. -/
def slice (a b : Nat) (l : List α) : List α := (l.drop a).take (b - a)

/-- Two slices that meet are one slice. -/
lemma slice_append_slice (hab : a ≤ b) (hbc : b ≤ c) :
    slice a b l ++ slice b c l = slice a c l := by
  have hlength : c - a = b - a + (c - b) := by omega
  have hstart : a + (b - a) = b := by omega
  rw [slice, slice, slice, hlength, List.take_add, List.drop_drop, hstart]

/-- A slice has at most as many elements as there are positions in it. -/
lemma length_slice_le : (slice a b l).length ≤ b - a := List.length_take_le _ _

/-- A slice that ends where it starts, or before, is empty. -/
lemma slice_eq_nil (h : b ≤ a) : slice a b l = [] := by
  have hlength : (slice a b l).length ≤ b - a := length_slice_le
  exact List.eq_nil_of_length_eq_zero (by omega)

/-- A slice from the start that goes far enough is the whole list. -/
lemma slice_zero (h : l.length ≤ b) : slice 0 b l = l := List.take_of_length_le h

/-- The images of a slice are a slice of the images. -/
lemma slice_map {β : Type} (f : α → β) : (slice a b l).map f = slice a b (l.map f) := by
  rw [slice, slice, List.map_take, List.map_drop]

/-- Images in another order are the images of the elements in another order. -/
lemma exists_map_eq_of_perm {β : Type} {f : α → β} {images : List β} (h : images.Perm (l.map f)) :
    ∃ k : List α, images = k.map f ∧ k.Perm l := by
  have hcomp := congrFun (congrFun (List.eq_map_comp_perm f) images) l
  obtain ⟨k, himages, hk⟩ := hcomp.mpr h
  exact ⟨k, himages, hk⟩

/-- Pages one after the other: the window of each begins where the one before it ends. -/
inductive Tiling (page : UInt64 → UInt64 → List α → Prop) :
    UInt64 → UInt64 → List (List α) → Prop
  | nil (a : UInt64) : Tiling page a a []
  | cons {a b c : UInt64} {items : List α} {rest : List (List α)} (le : a ≤ b)
    (head : page a b items) (tail : Tiling page b c rest) : Tiling page a c (items :: rest)

/-- Slices one after the other are one slice. -/
lemma Tiling.flatten_eq {page : UInt64 → UInt64 → List α → Prop} {start stop : UInt64}
    {pages : List (List α)}
    (hpage : ∀ a b items, page a b items → items = slice a.toNat b.toNat l)
    (h : Tiling page start stop pages) :
    start ≤ stop ∧ pages.flatten = slice start.toNat stop.toNat l := by
  induction h with
  | nil a => exact ⟨UInt64.le_refl a, (slice_eq_nil (Nat.le_refl _)).symm⟩
  | cons hle hhead _ ih =>
    obtain ⟨hrest, hflatten⟩ := ih
    refine ⟨UInt64.le_trans hle hrest, ?_⟩
    rw [List.flatten_cons, hflatten, hpage _ _ _ hhead]
    exact slice_append_slice (UInt64.le_iff_toNat_le.mp hle) (UInt64.le_iff_toNat_le.mp hrest)

end

/-! ## Windows -/

/-- A window has as many rows as there are positions between its ends, and none if it ends before it
starts. -/
lemma Window.toNat_limit (w : Window) : w.limit.toNat = w.stop.toNat - w.start.toNat := by
  unfold Window.limit
  split
  · next h => exact UInt64.toNat_sub_of_le _ _ h
  · next h =>
    rw [UInt64.le_iff_toNat_le] at h
    have hzero : (0 : UInt64).toNat = 0 := rfl
    omega

/-- A window cuts out the slice between its ends; one that ends before it starts cuts out
nothing. -/
lemma Scope.window_pageStatement (s : Scope) (w : Window) {α : Type} (items : List α) :
    (s.window w).pageStatement.window items = slice w.start.toNat w.stop.toNat items := by
  rw [slice, ← w.toNat_limit]
  rfl

/-- Whatever a request says about its window plays no role before the window. -/
lemma Registry.arrange_window (r : Registry) (subject : Subject) (request : Request)
    (start stop : Option UInt64) :
    r.arrange subject { request with startRow := start, endRow := stop } =
      r.arrange subject request := rfl

section

variable {V : Type} (S : Scalars V) (db : Database V)

/-- What a request with a given window may return: the rows from `start` up to `stop`. -/
def Registry.Pages (r : Registry) (subject : Subject) (request : Request) (start stop : UInt64)
    (rows : List (List (Cell V))) : Prop :=
  ∃ q, r.compile subject { request with startRow := some start, endRow := some stop } = .ok q ∧
    q.page.Returns S db rows

/-- Without groups, each row becomes a row of the page. -/
lemma Scope.units_page {s : Scope} (h : s.isGrouped = false) (rows : List (Frames V)) :
    s.pageStatement.units S db rows = rows.map fun f => [f] := by
  have hgroups : s.groups = [] := by simpa [isGrouped] using h
  have hrow : s.pageStatement.isTotal = false := by
    simp [Select.isTotal, pageStatement, h, Output.isRow]
  have hnone : s.pageStatement.groups.isEmpty = true := by
    rw [show s.pageStatement.groups = s.groups.map s.column from rfl, hgroups]
    rfl
  rw [Select.units, Select.groupsOf, if_pos hnone, hrow]
  rfl

/-- How rows are to be arranged is not told by the window. -/
lemma Scope.arranged_window (s : Scope) (w : Window) (units : List (List (Frames V))) :
    (s.window w).pageStatement.Arranged S db units ↔ s.pageStatement.Arranged S db units := by
  have houtputs : (s.window w).pageStatement.outputs = s.pageStatement.outputs := rfl
  unfold Select.Arranged
  rw [← Select.orderUnits_congr S db houtputs]
  rfl

/-- The rows of a page can be arranged as its ordering asks. -/
lemma Scope.exists_arranged (s : Scope) :
    ∃ all : List (Frames V), all.Perm (s.pageStatement.found S db) ∧
      s.pageStatement.Arranged S db (all.map fun f => [f]) := by
  obtain ⟨sorted, hperm, hsorted⟩ := s.pageStatement.exists_arranged S db
    ((s.pageStatement.found S db).map fun f => [f])
  obtain ⟨all, rfl, hall⟩ := exists_map_eq_of_perm hperm
  exact ⟨all, hall, hsorted⟩

/-- A page without groups is a slice of its rows in the only arrangement that a key among the
ordering terms leaves. -/
theorem Scope.page_iff {s : Scope} (hgroup : s.isGrouped = false) {key : String}
    {d : Direction} (hterm : (s.column key, d) ∈ s.pageStatement.orders)
    (hkey : KeyUnique S (db s.table) key) {all : List (Frames V)}
    (hall : all.Perm (s.pageStatement.found S db))
    (hsorted : s.pageStatement.Arranged S db (all.map fun f => [f])) (w : Window)
    (rows : List (List (Cell V))) :
    (s.window w).pageStatement.Returns S db rows ↔
      rows = slice w.start.toNat w.stop.toNat
        (all.map fun f => s.pageStatement.cells S db [f]) := by
  have hcut : ((s.window w).pageStatement.window (all.map fun f => [f])).map
        (s.pageStatement.cells S db) =
      slice w.start.toNat w.stop.toNat (all.map fun f => s.pageStatement.cells S db [f]) := by
    rw [Scope.window_pageStatement, slice_map, List.map_map]
    rfl
  constructor
  · rintro ⟨scan, hscan, arranged, hunits, harranged, hrows⟩
    rw [Scope.units_page S db (show (s.window w).isGrouped = false from hgroup)] at hunits
    obtain ⟨all', rfl, hall'⟩ := exists_map_eq_of_perm hunits
    have hsame : all' = all := Scope.eq_of_arranged S db hterm hkey (hall'.trans hscan) hall
      ((s.arranged_window S db w _).mp harranged) hsorted
    rw [hrows, hsame]
    exact hcut
  · intro hrows
    refine ⟨s.pageStatement.found S db, List.Perm.refl _, all.map fun f => [f], ?_,
      (s.arranged_window S db w _).mpr hsorted, ?_⟩
    · rw [Scope.units_page S db (show (s.window w).isGrouped = false from hgroup)]
      exact hall.map _
    · rw [hrows]
      exact hcut.symm

variable {r : Registry} {subject : Subject} {request : Request} {q : Query}

/-- **All pages of a request are slices of one list**, the rows as its ordering arranges them.

**Proof sketch.** Only the last stage of compilation looks at the window, so all pages come from one
scope. The primary key is among its ordering terms (`Stages.exists_key_term`), and a key leaves one
arrangement of the rows (`Scope.page_iff`). -/
theorem Registry.pages_iff (h : r.compile subject request = .ok q)
    (hgroup : q.scope.isGrouped = false)
    (hkey : KeyUnique S (db subject.entity.table) subject.entity.primaryKey)
    {all : List (Frames V)} (hall : all.Perm (q.scope.pageStatement.found S db))
    (hsorted : q.scope.pageStatement.Arranged S db (all.map fun f => [f])) (start stop : UInt64)
    (rows : List (List (Cell V))) :
    r.Pages S db subject request start stop rows ↔
      rows = slice start.toNat stop.toNat
        (all.map fun f => q.scope.pageStatement.cells S db [f]) := by
  obtain ⟨_, _, _, hstages⟩ := Registry.compile_spec h
  obtain ⟨d, hterm⟩ := hstages.exists_key_term hgroup
  rw [← hstages.table_eq] at hkey
  rw [← Scope.page_iff S db hgroup hterm hkey hall hsorted ⟨start, stop⟩ rows]
  rw [Registry.compile_eq] at h
  obtain ⟨s, hs, hq⟩ := map_eq_ok.mp h
  obtain ⟨offset, limit, hwindow⟩ := s.exists_windowFrom_eq request
  have hscope : q.scope = { s with offset := offset, limit := limit } := by
    rw [← hwindow, ← hq]
  have hpage : (q.scope.window ⟨start, stop⟩).pageStatement =
      (s.window ⟨start, stop⟩).pageStatement := by
    rw [hscope]
    rfl
  have hcompile : r.compile subject { request with startRow := some start, endRow := some stop } =
      .ok { request := { request with startRow := some start, endRow := some stop }
            subject := subject
            scope := s.window ⟨start, stop⟩ } := by
    rw [Registry.compile_eq, r.arrange_window, hs]
    rfl
  rw [Registry.Pages, hcompile, hpage]
  constructor
  · rintro ⟨q', hq', hreturns⟩
    rw [← Except.ok.inj hq'] at hreturns
    exact hreturns
  · intro hreturns
    exact ⟨_, rfl, hreturns⟩

/-- **Pages fit together.** The ordering of a compiled request without groups leaves one arrangement
of the rows, so that each page is determined; pages whose windows meet are the page of the joined
window; a page has at most as many rows as its window and none if the window ends before it starts;
and pages over windows that cover the result have each row once.

**Proof sketch.** All pages are slices of one list (`pages_iff`), and slices fit together. -/
theorem Registry.pages_fit_together (h : r.compile subject request = .ok q)
    (hgroup : q.scope.isGrouped = false)
    (hkey : KeyUnique S (db subject.entity.table) subject.entity.primaryKey) :
    (∀ l l' : List (Frames V), l.Perm (q.scope.pageStatement.found S db) →
      l'.Perm (q.scope.pageStatement.found S db) →
      q.scope.pageStatement.Arranged S db (l.map fun f => [f]) →
      q.scope.pageStatement.Arranged S db (l'.map fun f => [f]) → l = l') ∧
    (∀ start stop, ∃! rows, r.Pages S db subject request start stop rows) ∧
    (∀ a b c rows rows', a ≤ b → b ≤ c → r.Pages S db subject request a b rows →
      r.Pages S db subject request b c rows' →
      r.Pages S db subject request a c (rows ++ rows')) ∧
    (∀ start stop rows, r.Pages S db subject request start stop rows →
      rows.length ≤ stop.toNat - start.toNat) ∧
    (∀ start stop rows, stop < start → r.Pages S db subject request start stop rows →
      rows = []) ∧
    ∀ stop pages, Tiling (r.Pages S db subject request) 0 stop pages →
      (q.scope.pageStatement.found S db).length ≤ stop.toNat →
      pages.flatten.Perm ((q.scope.pageStatement.found S db).map fun f =>
        q.scope.pageStatement.cells S db [f]) := by
  obtain ⟨_, _, _, hstages⟩ := Registry.compile_spec h
  obtain ⟨d, hterm⟩ := hstages.exists_key_term hgroup
  obtain ⟨all, hall, hsorted⟩ := q.scope.exists_arranged S db
  have hpages := Registry.pages_iff S db h hgroup hkey hall hsorted
  rw [← hstages.table_eq] at hkey
  refine ⟨fun l l' hl hl' ha ha' => Scope.eq_of_arranged S db hterm hkey hl hl' ha ha',
    fun start stop => ?_, fun a b c rows rows' hab hbc hrows hrows' => ?_,
    fun start stop rows hrows => ?_, fun start stop rows hlt hrows => ?_,
    fun stop pages htiling hlength => ?_⟩
  · exact ⟨_, (hpages start stop _).mpr rfl, fun rows hrows => (hpages start stop rows).mp hrows⟩
  · rw [hpages] at hrows hrows' ⊢
    rw [hrows, hrows']
    exact slice_append_slice (UInt64.le_iff_toNat_le.mp hab) (UInt64.le_iff_toNat_le.mp hbc)
  · rw [hpages] at hrows
    rw [hrows]
    exact length_slice_le
  · rw [hpages] at hrows
    rw [hrows]
    exact slice_eq_nil (Nat.le_of_lt (UInt64.lt_iff_toNat_lt.mp hlt))
  · have hflatten := (htiling.flatten_eq fun a b rows => (hpages a b rows).mp).2
    have hlong : (all.map fun f => q.scope.pageStatement.cells S db [f]).length ≤ stop.toNat := by
      rw [List.length_map, hall.length_eq]
      exact hlength
    have hzero : (0 : UInt64).toNat = 0 := rfl
    rw [hflatten, hzero, slice_zero hlong]
    exact hall.map _

end

/-! ## An example -/

namespace Zoo

/-- A flamingo of the first keeper. -/
def andy (id : Int) : Row Literal :=
  rowOf [("id", .int id), ("name", .string "Andy"), ("keeper_id", .int 1)]

/-- Three flamingos of one name and one keeper, and another one that is deleted. -/
def namesakes : Database Literal
  | "keepers" => [keeper]
  | "flamingos" => [andy 3, andy 1,
      rowOf [("id", .int 4), ("keeper_id", .int 1), ("deleted_at", .string "2024-05-07")], andy 2]
  | _ => []

/-- By the id of the keeper, which is no id of a flamingo, and then by name. -/
def byKeeper : Request where
  sorts := [⟨"keeper.id", .desc⟩, ⟨"name", .asc⟩]

/-- Flamingos are told apart by their ids. -/
lemma keyUnique_namesakes : KeyUnique Scalars.ofLiterals (namesakes "flamingos") "id" where
  notNull := by decide +kernel
  unique := by
    have hdistinct : (namesakes "flamingos").Pairwise fun a b =>
        Scalars.ofLiterals.cellOrder (a "id") (b "id") ≠ .eq := by decide +kernel
    refine hdistinct.imp fun hne v w hv hw => ?_
    rwa [hv, hw] at hne

/-- The pages of the namesakes are slices of the three that live, in the order of their ids. -/
lemma pages_namesakes {r : Registry} {q : Query} (hr : registry = .ok r)
    (h : r.compile { entity := flamingos } byKeeper = .ok q) (start stop : UInt64)
    (rows : List (List (Cell Literal))) :
    r.Pages Scalars.ofLiterals namesakes { entity := flamingos } byKeeper start stop rows ↔
      rows = slice start.toNat stop.toNat [[.row (andy 1)], [.row (andy 2)], [.row (andy 3)]] := by
  have hall : ([[("flamingos", andy 1)], [("flamingos", andy 2)]] ++ [[("flamingos", andy 3)]]).Perm
      ([[("flamingos", andy 3)]] ++ [[("flamingos", andy 1)], [("flamingos", andy 2)]]) :=
    List.perm_append_comm
  obtain rfl := Except.ok.inj hr
  obtain rfl := Except.ok.inj h
  refine Registry.pages_iff Scalars.ofLiterals namesakes h rfl keyUnique_namesakes hall ?_ start
    stop rows
  unfold Select.Arranged
  decide +kernel

end Zoo

/-- Two flamingos out of three that the sort entries do not tell apart, and then the last one: the
pages meet between equals, and the deleted flamingo is on none of them. -/
theorem Registry.pages_fit_together_flamingos :
    ∃ r q, Zoo.registry = .ok r ∧
      r.compile { entity := Zoo.flamingos } Zoo.byKeeper = .ok q ∧
      q.scope.isGrouped = false ∧
      KeyUnique Scalars.ofLiterals (Zoo.namesakes "flamingos") "id" ∧
      (∀ rows, r.Pages Scalars.ofLiterals Zoo.namesakes { entity := Zoo.flamingos } Zoo.byKeeper
        0 2 rows ↔ rows = [[.row (Zoo.andy 1)], [.row (Zoo.andy 2)]]) ∧
      (∀ rows, r.Pages Scalars.ofLiterals Zoo.namesakes { entity := Zoo.flamingos } Zoo.byKeeper
        2 3 rows ↔ rows = [[.row (Zoo.andy 3)]]) ∧
      r.Pages Scalars.ofLiterals Zoo.namesakes { entity := Zoo.flamingos } Zoo.byKeeper 0 3
        ([[.row (Zoo.andy 1)], [.row (Zoo.andy 2)]] ++ [[.row (Zoo.andy 3)]]) := by
  have hjoin : ∀ r q, Zoo.registry = .ok r →
      r.compile { entity := Zoo.flamingos } Zoo.byKeeper = .ok q → q.scope.isGrouped = false →
      r.Pages Scalars.ofLiterals Zoo.namesakes { entity := Zoo.flamingos } Zoo.byKeeper 0 3
        ([[.row (Zoo.andy 1)], [.row (Zoo.andy 2)]] ++ [[.row (Zoo.andy 3)]]) := by
    intro r q hr h hgroup
    obtain ⟨-, -, hmeet, -⟩ := Registry.pages_fit_together Scalars.ofLiterals Zoo.namesakes h hgroup
      Zoo.keyUnique_namesakes
    exact hmeet 0 2 3 _ _ (by decide) (by decide) ((Zoo.pages_namesakes hr h 0 2 _).mpr rfl)
      ((Zoo.pages_namesakes hr h 2 3 _).mpr rfl)
  exact ⟨_, _, rfl, rfl, rfl, Zoo.keyUnique_namesakes, Zoo.pages_namesakes rfl rfl 0 2,
    Zoo.pages_namesakes rfl rfl 2 3, hjoin _ _ rfl rfl rfl⟩

end DataGrid
