import DataGrid.Proofs.Path.Live

/-!
# Live chains

A chain of rows follows the hops of a path from a row of the subject: each row of it is a live row of
the table that its hop leads to, found under the key of the row before. Existence tests, sort keys
and joins are all about these chains, and about no others.

## Main definitions

* `DataGrid.Hop.Leads`, `DataGrid.LiveChain` — one step, and a whole chain.
* `DataGrid.liveChains` — all live chains, in the order in which the store reads rows.
* `DataGrid.paddedChains` — the rows that left joins put together, nulls standing for missing ones.
* `DataGrid.chainFrames` — the rows of a chain under the names of the joined tables.
* `DataGrid.ColumnPath.value` — the value of a path in the row at its end.

## Main results

* `DataGrid.mem_liveChains` — the chains that are listed are the live ones.
* `DataGrid.holds_existsAlong` — existence tests along hops ask for a live chain.
* `DataGrid.extended_joinsAlong` — joins along hops make chains.
* `DataGrid.paddedChains_filter` — the chains of left joins without missing rows.
* `DataGrid.ColumnPath.truth_related`, `DataGrid.ColumnPath.truth_missing?` — the two existence tests
  of a filter.

## Implementation notes

Nested existence tests are taken apart from the outside and joins are put together from the inside.
Both keep the rows found so far as frames under the names of their tables, so a single statement
about frames serves both inductions. A row that is really there is never taken for a missing one:
it was found under a key, and the row of nulls has none.
-/

namespace DataGrid

open Sql

variable {V : Type} (S : Scalars V) (db : Database V)

/-! ## One step -/

/-- A hop leads from one row to another: the other one is a row of its table, the keys of both are
there and equal, and it is not deleted. -/
structure Hop.Leads (h : Hop) (source target : Row V) : Prop where
  mem : target ∈ db h.table
  keys : ∃ v w, target h.foreignKey = some v ∧ source h.localKey = some w ∧ S.order v w = .eq
  live : ∀ name, h.softDelete = some name → target name = none

/-- The rows that a hop leads to. -/
def Hop.reached (h : Hop) (source : Row V) : List (Row V) :=
  (h.liveRows db).filter fun row =>
    S.compared .eq (row h.foreignKey) (source h.localKey) == some true

/-- The rows that a hop leads to, or a row of nulls if there is none. -/
def Hop.reachedOrNull (h : Hop) (source : Row V) : List (Row V) :=
  match h.reached S db source with
  | [] => [nullRow]
  | found => found

/-- The rows that are listed for a hop are those that it leads to. -/
lemma Hop.mem_reached {h : Hop} {source row : Row V} :
    row ∈ h.reached S db source ↔ h.Leads S db source row := by
  rw [reached, liveRows, List.mem_filter, List.mem_filter, beq_iff_eq, S.compared_eq_true,
    isLive_iff]
  constructor
  · rintro ⟨⟨hmem, hlive⟩, hkeys⟩
    exact ⟨hmem, hkeys, hlive⟩
  · rintro ⟨hmem, hkeys, hlive⟩
    exact ⟨⟨hmem, hlive⟩, hkeys⟩

/-- Where a hop leads nowhere, a row of nulls stands in. -/
lemma Hop.reachedOrNull_of_eq_nil {h : Hop} {source : Row V} (hnone : h.reached S db source = []) :
    h.reachedOrNull S db source = [nullRow] := by
  rw [reachedOrNull, hnone]

/-- Where a hop leads somewhere, no row is made up. -/
lemma Hop.reachedOrNull_of_ne_nil {h : Hop} {source : Row V} (hsome : h.reached S db source ≠ []) :
    h.reachedOrNull S db source = h.reached S db source := by
  unfold reachedOrNull
  split
  · next hnone => exact absurd hnone hsome
  · rfl

/-- No hop leads to a row of nulls, which has no key. -/
lemma Hop.nullRow_notMem_reached (h : Hop) (source : Row V) :
    nullRow ∉ h.reached S db source := by
  intro hmem
  obtain ⟨v, _, hv, _⟩ := ((h.mem_reached S db).mp hmem).keys
  cases hv

/-- No hop leads anywhere from a row of nulls. -/
lemma Hop.reached_nullRow (h : Hop) : h.reached S db nullRow = [] := by
  refine List.eq_nil_iff_forall_not_mem.mpr fun row hmem => ?_
  obtain ⟨_, w, _, hw, _⟩ := ((h.mem_reached S db).mp hmem).keys
  cases hw

/-! ## Chains -/

/-- A chain of rows that are led to one from the other, beginning behind the given row. -/
inductive LiveChain : Row V → List Hop → List (Row V) → Prop
  | nil (source : Row V) : LiveChain source [] []
  | cons {source row : Row V} {h : Hop} {rest : List Hop} {rows : List (Row V)} :
    h.Leads S db source row → LiveChain row rest rows → LiveChain source (h :: rest) (row :: rows)

/-- The rows along hops, where `next` gives the rows that may follow a row. -/
def rowsAlong (next : Hop → Row V → List (Row V)) : List Hop → Row V → List (List (Row V))
  | [], _ => [[]]
  | h :: rest, source =>
    (next h source).flatMap fun row => (rowsAlong next rest row).map fun rows => row :: rows

/-- The live chains along hops. -/
def liveChains (hops : List Hop) (source : Row V) : List (List (Row V)) :=
  rowsAlong (Hop.reached S db) hops source

/-- The rows that left joins along hops put together. -/
def paddedChains (hops : List Hop) (source : Row V) : List (List (Row V)) :=
  rowsAlong (Hop.reachedOrNull S db) hops source

/-- The rows along hops have one row for each hop. -/
lemma length_of_mem_rowsAlong {next : Hop → Row V → List (Row V)} {hops : List Hop}
    {source : Row V} {rows : List (Row V)} (h : rows ∈ rowsAlong next hops source) :
    rows.length = hops.length := by
  induction hops generalizing source rows with
  | nil => rw [List.mem_singleton.mp h]; rfl
  | cons hop rest ih =>
    obtain ⟨row, _, hrows⟩ := List.mem_flatMap.mp h
    obtain ⟨tail, htail, rfl⟩ := List.mem_map.mp hrows
    rw [List.length_cons, List.length_cons, ih htail]

/-- **The chains that are listed** are the live ones. -/
theorem mem_liveChains {hops : List Hop} {source : Row V} {rows : List (Row V)} :
    rows ∈ liveChains S db hops source ↔ LiveChain S db source hops rows := by
  unfold liveChains
  induction hops generalizing source rows with
  | nil =>
    rw [rowsAlong, List.mem_singleton]
    constructor
    · rintro rfl
      exact .nil source
    · rintro ⟨⟩
      rfl
  | cons h rest ih =>
    simp only [rowsAlong, List.mem_flatMap, List.mem_map, ih, h.mem_reached S db]
    constructor
    · rintro ⟨row, hleads, tail, htail, rfl⟩
      exact .cons hleads htail
    · intro hchain
      cases hchain with
      | cons hleads htail => exact ⟨_, hleads, _, htail, rfl⟩

/-- Along no hops there is the chain without rows. -/
@[simp] theorem liveChain_nil_iff {source : Row V} {rows : List (Row V)} :
    LiveChain S db source [] rows ↔ rows = [] := by
  rw [← mem_liveChains]
  exact List.mem_singleton

/-- There is no live chain exactly when none is listed. -/
lemma liveChains_eq_nil {hops : List Hop} {source : Row V} :
    liveChains S db hops source = [] ↔ ¬ ∃ rows, LiveChain S db source hops rows := by
  rw [List.eq_nil_iff_forall_not_mem, not_exists]
  exact forall_congr' fun rows => not_congr (mem_liveChains S db)

/-- From a row of nulls, left joins put nothing but nulls together. -/
lemma nullRow_mem_of_mem_paddedChains {h : Hop} {rest : List Hop} {rows : List (Row V)}
    (hmem : rows ∈ paddedChains S db (h :: rest) nullRow) : nullRow ∈ rows := by
  obtain ⟨row, hrow, hrows⟩ := List.mem_flatMap.mp hmem
  obtain ⟨tail, _, rfl⟩ := List.mem_map.mp hrows
  rw [Hop.reachedOrNull_of_eq_nil S db (h.reached_nullRow S db), List.mem_singleton] at hrow
  rw [hrow]
  exact List.mem_cons_self

open Classical in
/-- **The chains of left joins without missing rows** are the live chains, each as often.

**Proof sketch.** Induction on the hops. If a hop leads somewhere, both lists go on from the same
rows, none of which is a row of nulls; if it leads nowhere, there is no live chain, and the row of
nulls stands in all that left joins put together. -/
theorem paddedChains_filter (hops : List Hop) (source : Row V) :
    ((paddedChains S db hops source).filter fun rows => nullRow ∉ rows) =
      liveChains S db hops source := by
  unfold paddedChains liveChains
  induction hops generalizing source with
  | nil => simp [rowsAlong]
  | cons h rest ih =>
    rw [rowsAlong, rowsAlong, List.filter_flatMap]
    by_cases hnone : h.reached S db source = []
    · rw [Hop.reachedOrNull_of_eq_nil S db hnone, hnone, List.flatMap_singleton, List.flatMap_nil,
        List.filter_eq_nil_iff]
      intro rows hrows
      obtain ⟨tail, _, rfl⟩ := List.mem_map.mp hrows
      simp
    · rw [Hop.reachedOrNull_of_ne_nil S db hnone]
      refine List.flatMap_congr fun row hrow => ?_
      have hne : nullRow ≠ row := fun heq => h.nullRow_notMem_reached S db source (heq ▸ hrow)
      rw [List.filter_map, ← ih row]
      congr 1
      refine List.filter_congr fun rows _ => ?_
      simp [hne]

/-! ## Chains that break off -/

/-- Left joins make something of every row. -/
lemma paddedChains_ne_nil (hops : List Hop) (source : Row V) :
    paddedChains S db hops source ≠ [] := by
  unfold paddedChains
  induction hops generalizing source with
  | nil => exact List.cons_ne_nil _ _
  | cons h rest ih =>
    have hsome : h.reachedOrNull S db source ≠ [] := by
      by_cases hnone : h.reached S db source = []
      · rw [Hop.reachedOrNull_of_eq_nil S db hnone]
        exact List.cons_ne_nil _ _
      · rwa [Hop.reachedOrNull_of_ne_nil S db hnone]
    obtain ⟨row, hrow⟩ := List.exists_mem_of_ne_nil _ hsome
    obtain ⟨rows, hrows⟩ := List.exists_mem_of_ne_nil _ (ih row)
    exact List.ne_nil_of_mem (List.mem_flatMap.mpr ⟨row, hrow, List.mem_map_of_mem hrows⟩)

/-- What left joins put together is a live chain, or it breaks off. -/
lemma mem_paddedChains_of_notMem {hops : List Hop} {source : Row V} {rows : List (Row V)}
    (hnull : nullRow ∉ rows) :
    rows ∈ paddedChains S db hops source ↔ LiveChain S db source hops rows := by
  rw [← mem_liveChains, ← paddedChains_filter]
  simp [hnull]

/-- A chain that has broken off stays so: it ends in a row of nulls. -/
lemma getLastD_eq_nullRow {hops : List Hop} {source : Row V} {rows : List (Row V)}
    (hrows : rows ∈ paddedChains S db hops source) (hnull : nullRow ∈ rows) :
    rows.getLastD source = nullRow := by
  induction hops generalizing source rows with
  | nil =>
    rw [List.mem_singleton.mp hrows] at hnull
    cases hnull
  | cons h rest ih =>
    obtain ⟨row, _, htails⟩ := List.mem_flatMap.mp hrows
    obtain ⟨tail, htail, rfl⟩ := List.mem_map.mp htails
    rw [List.getLastD_cons]
    rcases List.mem_cons.mp hnull with rfl | hnull
    · cases rest with
      | nil => rw [List.mem_singleton.mp htail]; rfl
      | cons h' rest => exact ih htail (nullRow_mem_of_mem_paddedChains S db htail)
    · exact ih htail hnull

/-- Where all hops but the last reach at most one row, a chain that breaks off is the only one.

**Proof sketch.** Induction on the hops. A chain that goes on behind the first hop has left the same
row as any other, so the break is further on; behind the last hop nothing can break. -/
lemma not_liveChain_of_nullRow_mem {hops : List Hop}
    (hone : ∀ h ∈ hops.dropLast, h.AtMostOne S db) {source : Row V} {rows : List (Row V)}
    (hrows : rows ∈ paddedChains S db hops source) (hnull : nullRow ∈ rows) :
    ¬ ∃ rows', LiveChain S db source hops rows' := by
  induction hops generalizing source rows with
  | nil =>
    rw [List.mem_singleton.mp hrows] at hnull
    cases hnull
  | cons h rest ih =>
    rintro ⟨_, hchain⟩
    cases hchain with
    | @cons _ row' _ _ tail' hleads htail' =>
    have hreached : row' ∈ h.reached S db source := (h.mem_reached S db).mpr hleads
    obtain ⟨row, hrow, htails⟩ := List.mem_flatMap.mp hrows
    obtain ⟨tail, htail, rfl⟩ := List.mem_map.mp htails
    rw [Hop.reachedOrNull_of_ne_nil S db (List.ne_nil_of_mem hreached)] at hrow
    have hne : nullRow ≠ row := fun heq => h.nullRow_notMem_reached S db source (heq ▸ hrow)
    have hnull' : nullRow ∈ tail := (List.mem_cons.mp hnull).resolve_left hne
    cases rest with
    | nil =>
      rw [List.mem_singleton.mp htail] at hnull'
      cases hnull'
    | cons h' rest =>
      rw [List.dropLast_cons_cons, List.forall_mem_cons] at hone
      have hsame : row' = row := by
        have hlength : (h.reached S db source).length ≤ 1 := hone.1 _
        obtain ⟨only, honly⟩ := List.length_eq_one_iff.mp
          (Nat.le_antisymm hlength (List.length_pos_of_mem hreached))
        rw [honly, List.mem_singleton] at hreached hrow
        rw [hreached, hrow]
      exact ih hone.2 htail hnull' ⟨tail', hsame ▸ htail'⟩

/-! ## Frames -/

/-- The rows of a chain under the names of the tables of the hops, the last one innermost. -/
def chainFrames (parent : String) (frames : Frames V) : List Hop → List (Row V) → Frames V
  | h :: rest, row :: rows =>
    chainFrames (h.label parent) ((h.label parent, row) :: frames) rest rows
  | _, _ => frames

/-- The name at the end of the hops is that of the last row of a chain. -/
lemma find?_chainFrames {hops : List Hop} {parent : String} {frames : Frames V} {source : Row V}
    (hsource : Keyed.find? parent frames = some source) {rows : List (Row V)}
    (hlength : rows.length = hops.length) :
    Keyed.find? (hops.foldl (fun label h => h.label label) parent)
      (chainFrames parent frames hops rows) = some (rows.getLastD source) := by
  induction hops generalizing parent frames source rows with
  | nil =>
    rw [List.eq_nil_of_length_eq_zero hlength]
    exact hsource
  | cons h rest ih =>
    cases rows with
    | nil => cases hlength
    | cons row rows =>
      rw [List.foldl_cons, chainFrames, List.getLastD_cons]
      exact ih (Keyed.find?_cons_self _ row frames) (Nat.succ.inj hlength)

/-- What takes the row at the end of the hops only can be told from that row. -/
lemma agreeOn_chainFrames {hops : List Hop} {parent : String} {frames : Frames V} {source : Row V}
    (hsource : Keyed.find? parent frames = some source) {rows : List (Row V)}
    (hlength : rows.length = hops.length) {labels : List String}
    (hlabels : labels ⊆ [hops.foldl (fun label h => h.label label) parent]) :
    AgreeOn labels (chainFrames parent frames hops rows)
      [(hops.foldl (fun label h => h.label label) parent, rows.getLastD source)] := by
  intro label hlabel
  rw [List.mem_singleton.mp (hlabels hlabel), find?_chainFrames hsource hlength, Keyed.find?,
    if_pos rfl]

/-! ## Existence tests -/

/-- **Existence tests along hops** ask for a live chain, and for what stands inside them of the row
at its end.

**Proof sketch.** Induction on the hops from the outside: the row that the outermost test asks for
is the first one of the chain, and its frame is one more that the inner tests see. -/
theorem holds_existsAlong (hops : List Hop) {parent : String} {frames : Frames V} {source : Row V}
    (hsource : Keyed.find? parent frames = some source) (inner : Option Condition) :
    (∀ c, existsAlong parent inner hops = some c → c.Holds S db { frames := frames }) ↔
      ∃ rows ∈ liveChains S db hops source, ∀ c, inner = some c →
        c.Holds S db { frames := chainFrames parent frames hops rows } := by
  induction hops generalizing parent frames source with
  | nil => simp [existsAlong, liveChains, rowsAlong, chainFrames]
  | cons h rest ih =>
    have hcell : Env.cell { frames := frames } parent h.localKey = source h.localKey := by
      rw [Env.cell, hsource]
      rfl
    have hrow : ∀ row : Row V,
        Keyed.find? (h.label parent) ((h.label parent, row) :: frames) = some row :=
      fun row => Keyed.find?_cons_self _ row frames
    have hinner : ∀ row : Row V, (∀ c, existsAlong (h.label parent) inner rest = some c →
        c.Holds S db (Env.enter { frames := frames } (h.label parent) row)) ↔ _ :=
      fun row => ih (hrow row)
    rw [existsAlong]
    simp only [Option.some.injEq, forall_eq', Condition.holds_ofExpr, h.holds_existsExpr, hcell,
      hinner, liveChains, rowsAlong, Hop.reached, List.mem_flatMap, List.mem_map, List.mem_filter,
      beq_iff_eq]
    constructor
    · rintro ⟨row, hlive, hkey, rows, hrows, hholds⟩
      exact ⟨row :: rows, ⟨row, ⟨hlive, hkey⟩, rows, hrows, rfl⟩, hholds⟩
    · rintro ⟨_, ⟨row, ⟨hlive, hkey⟩, rows, hrows, rfl⟩, hholds⟩
      exact ⟨row, hlive, hkey, rows, hrows, hholds⟩

/-! ## Joins -/

/-- Rows are extended one by one. -/
lemma extended_eq_flatMap (extend : Frames V → Join → List (Frames V)) (rows : List (Frames V))
    (joins : List Join) :
    extended extend rows joins = rows.flatMap fun frames => extended extend [frames] joins := by
  induction joins generalizing rows with
  | nil => simp [extended]
  | cons join rest ih =>
    simp only [extended, List.flatMap_singleton]
    rw [ih, List.flatMap_assoc]
    exact List.flatMap_congr fun frames _ => (ih _).symm

/-- **Joins along hops** make the chains of the rows that each join makes of a row.

**Proof sketch.** Induction on the hops: the rows that the first join makes are extended one by one,
each by its own chains. -/
theorem extended_joinsAlong {extend : Frames V → Join → List (Frames V)}
    {next : Hop → Row V → List (Row V)}
    (hnext : ∀ (h : Hop) parent frames source, Keyed.find? parent frames = some source →
      extend frames (h.join parent) =
        (next h source).map fun row => (h.label parent, row) :: frames)
    {hops : List Hop} {parent : String} {frames : Frames V} {source : Row V}
    (hsource : Keyed.find? parent frames = some source) :
    extended extend [frames] (joinsAlong parent hops) =
      (rowsAlong next hops source).map (chainFrames parent frames hops) := by
  induction hops generalizing parent frames source with
  | nil => rfl
  | cons h rest ih =>
    rw [joinsAlong_cons, extended, List.flatMap_singleton, extended_eq_flatMap,
      hnext h parent frames source hsource, rowsAlong, List.map_flatMap, List.flatMap_map]
    refine List.flatMap_congr fun row _ => ?_
    rw [ih (Keyed.find?_cons_self _ row frames), List.map_map]
    rfl

/-- The partners of a row are the rows that the hop leads to. -/
lemma Hop.partners_eq_map {h : Hop} {parent : String} {frames : Frames V} {source : Row V}
    (hsource : Keyed.find? parent frames = some source) :
    (h.join parent).partners S db frames =
      (h.reached S db source).map fun row => (h.label parent, row) :: frames := by
  rw [h.partners_eq S db, Env.cell, hsource]
  rfl

/-- What a left join makes of a row are the rows that the hop leads to, or a row of nulls. -/
lemma Hop.partnersOrNull_eq_map {h : Hop} {parent : String} {frames : Frames V} {source : Row V}
    (hsource : Keyed.find? parent frames = some source) :
    (h.join parent).partnersOrNull S db frames =
      (h.reachedOrNull S db source).map fun row => (h.label parent, row) :: frames := by
  rw [Join.partnersOrNull, h.partners_eq_map S db hsource, Hop.reachedOrNull]
  cases h.reached S db source <;> rfl

/-- Inner joins along hops make the live chains. -/
theorem joined_joinsAlong {hops : List Hop} {parent : String} {frames : Frames V} {source : Row V}
    (hsource : Keyed.find? parent frames = some source) :
    extended (Join.partners S db) [frames] (joinsAlong parent hops) =
      (liveChains S db hops source).map (chainFrames parent frames hops) :=
  extended_joinsAlong (fun _ _ _ _ h => Hop.partners_eq_map S db h) hsource

/-- Left joins along hops make the live chains, padded with nulls where they break off. -/
theorem leftJoined_joinsAlong {hops : List Hop} {parent : String} {frames : Frames V}
    {source : Row V} (hsource : Keyed.find? parent frames = some source) :
    leftJoined S db [frames] (joinsAlong parent hops) =
      (paddedChains S db hops source).map (chainFrames parent frames hops) := by
  rw [leftJoined_eq]
  exact extended_joinsAlong (fun _ _ _ _ h => Hop.partnersOrNull_eq_map S db h) hsource

/-! ## The value at the end -/

/-- The member of a document under several keys, one inside the other; the last one is read as
text. -/
def Sql.Scalars.memberAt (c : Option V) : List String → Option V
  | [] => c
  | [key] => c.bind (S.member true key)
  | key :: keys => memberAt (c.bind (S.member false key)) keys

/-- The value of a path in the row at its end. -/
def ColumnPath.value (p : ColumnPath) (row : Row V) : Option V := S.memberAt (row p.leaf) p.keys

/-- Null has no members. -/
lemma Sql.Scalars.memberAt_none (keys : List String) : S.memberAt none keys = none := by
  induction keys with
  | nil => rfl
  | cons key rest ih =>
    cases rest with
    | nil => rfl
    | cons next rest => exact ih

/-- The value of a path in a row of nulls is null. -/
lemma ColumnPath.value_nullRow (p : ColumnPath) : p.value S nullRow = none :=
  S.memberAt_none p.keys

/-- A key inside a document is looked up in the value of the document. -/
lemma ColumnPath.eval_memberAt (env : Env V) (e : Expr) (keys : List String) :
    (memberAt e keys).eval S db env = S.memberAt (e.eval S db env) keys := by
  induction keys generalizing e with
  | nil => rfl
  | cons key rest ih =>
    cases rest with
    | nil => rfl
    | cons next rest => exact ih (.member e key false)

/-- The value of a path is that of the row that goes by the name of its table. -/
lemma ColumnPath.eval_expr (p : ColumnPath) {label : String} {env : Env V} {row : Row V}
    (hrow : Keyed.find? label env.frames = some row) :
    (p.expr label).eval S db env = p.value S row := by
  rw [expr, eval_memberAt, Expr.eval, Env.cell, hrow]
  rfl

/-- The value of a path behind a chain is that of the last row. -/
lemma ColumnPath.eval_expr_chainFrames (p : ColumnPath) {base : String} {frames : Frames V}
    {source : Row V} (hsource : Keyed.find? base frames = some source) {rows : List (Row V)}
    (hlength : rows.length = p.hops.length) :
    (p.expr (p.leafLabel base)).eval S db { frames := chainFrames base frames p.hops rows } =
      p.value S (rows.getLastD source) :=
  p.eval_expr S db (find?_chainFrames hsource hlength)

/-! ## Sort keys -/

/-- The rows that the lookup of a value ranges over. -/
def Sql.Expr.lookupRows (env : Env V) : Expr → List (Frames V)
  | .lookup _ _ table label joins filter =>
    (joined S db ((db table).map fun row => (label, row) :: env.frames) joins).filter
      fun frames => S.truth (filter.eval S db { frames := frames }) == some true
  | _ => []

namespace ColumnPath

variable {p : ColumnPath} {base : String} {env : Env V} {source : Row V}

/-- A sort key through relations ranges over the live chains. -/
theorem lookupRows_sortKey (hhops : p.hops ≠ [])
    (hsource : Keyed.find? base env.frames = some source) (d : Direction) :
    (p.sortKey base d).lookupRows S db env =
      (liveChains S db p.hops source).map (chainFrames base env.frames p.hops) := by
  rw [← joined_joinsAlong S db hsource]
  unfold sortKey
  cases hp : p.hops with
  | nil => exact absurd hp hhops
  | cons h rest =>
    dsimp only
    rw [Expr.lookupRows, ← lookedUp_eq S db env base h rest]
    simp only [Expr.beq_some_true]
    rfl

/-- A sort key through relations picks one of the values at the ends of the live chains. -/
lemma eval_sortKey_eq (hhops : p.hops ≠ []) (hsource : Keyed.find? base env.frames = some source)
    (d : Direction) :
    (p.sortKey base d).eval S db env =
      let cells := (liveChains S db p.hops source).map fun rows => p.value S (rows.getLastD source)
      if p.hops.any fun h => h.kind = .hasMany then S.extreme (extremeFor d) cells
      else cells.head?.join := by
  obtain ⟨h, rest, hp⟩ := List.exists_cons_of_ne_nil hhops
  have hcells : (extended (Join.partners S db) [env.frames] (joinsAlong base p.hops)).map
      (fun frames => (p.expr (p.leafLabel base)).eval S db { frames := frames }) =
        (liveChains S db p.hops source).map fun rows => p.value S (rows.getLastD source) := by
    rw [joined_joinsAlong S db hsource, List.map_map]
    exact List.map_congr_left fun rows hrows =>
      p.eval_expr_chainFrames S db hsource (length_of_mem_rowsAlong hrows)
  rw [eval_sortKey S db env hp, hcells]

/-- **An extreme sort key** is null when all values at the ends of the live chains are, and otherwise
one of these values that none of them comes before. -/
theorem sortKey_isExtreme (hhops : p.hops ≠ [])
    (hsource : Keyed.find? base env.frames = some source)
    (hmany : ∃ h ∈ p.hops, h.kind = .hasMany) (d : Direction) :
    ((p.sortKey base d).eval S db env = none ↔ ∀ rows, LiveChain S db source p.hops rows →
      p.value S (rows.getLastD source) = none) ∧
    ∀ v, (p.sortKey base d).eval S db env = some v →
      (∃ rows, LiveChain S db source p.hops rows ∧ p.value S (rows.getLastD source) = some v) ∧
      ∀ rows w, LiveChain S db source p.hops rows → p.value S (rows.getLastD source) = some w →
        (match d with
          | .asc => S.order v w
          | .desc => S.order w v).isLE := by
  have hmany' : (p.hops.any fun h => h.kind = .hasMany) = true := by simpa using hmany
  have hmem : ∀ v, some v ∈ (liveChains S db p.hops source).map
      (fun rows => p.value S (rows.getLastD source)) ↔
        ∃ rows, LiveChain S db source p.hops rows ∧ p.value S (rows.getLastD source) = some v := by
    intro v
    simp only [List.mem_map, mem_liveChains]
  rw [eval_sortKey_eq S db hhops hsource d]
  dsimp only
  rw [if_pos hmany']
  refine ⟨?_, fun v hv => ?_⟩
  · simp only [S.extreme_eq_none, hmem, not_exists, not_and]
    constructor
    · intro hnone rows hrows
      by_contra hsome
      obtain ⟨v, hv⟩ := Option.ne_none_iff_exists'.mp hsome
      exact hnone v rows hrows hv
    · intro hnone v rows hrows hv
      rw [hnone rows hrows] at hv
      cases hv
  · obtain ⟨hone, hall⟩ := S.extreme_spec hv
    refine ⟨(hmem v).mp hone, fun rows w hrows hw => ?_⟩
    have hle := hall w ((hmem w).mpr ⟨rows, hrows, hw⟩)
    cases d with
    | asc => exact hle
    | desc => exact hle

/-! ## Related and missing rows -/

/-- A condition through relations is one existence test. -/
lemma related_eq (hhops : p.hops ≠ []) (base : String) (c : Condition) :
    ∃ h rest, p.hops = h :: rest ∧ p.related base c =
      .ofExpr (h.existsExpr base (existsAlong (h.label base) (some c) rest)) := by
  obtain ⟨h, rest, hp⟩ := List.exists_cons_of_ne_nil hhops
  exact ⟨h, rest, hp, by rw [related, hp]; rfl⟩

/-- An existence test looks at the rows around it and at nothing else around it. -/
lemma holds_existsExpr_frames (h : Hop) (base : String) (inner : Option Condition) (env : Env V) :
    (h.existsExpr base inner).Holds S db env ↔
      (h.existsExpr base inner).Holds S db { frames := env.frames } := by
  rw [Hop.holds_existsExpr, Hop.holds_existsExpr]
  rfl

/-- A condition on the row at the end of a path holds when it holds at the end of some live
chain. -/
theorem holds_related (hhops : p.hops ≠ []) (hsource : Keyed.find? base env.frames = some source)
    {c : Condition} (hc : c.toExpr.labels ⊆ [p.leafLabel base]) :
    (p.related base c).Holds S db env ↔ ∃ rows, LiveChain S db source p.hops rows ∧
      c.Holds S db (.ofRow (p.leafLabel base) (rows.getLastD source)) := by
  obtain ⟨h, rest, hp, hrelated⟩ := related_eq hhops base c
  have hchains := holds_existsAlong S db p.hops hsource (some c)
  rw [hp, existsAlong, ← hp] at hchains
  simp only [Option.some.injEq, forall_eq', Condition.holds_ofExpr] at hchains
  rw [hrelated, Condition.holds_ofExpr, holds_existsExpr_frames, hchains]
  simp only [mem_liveChains]
  refine exists_congr fun rows => and_congr_right fun hrows => ?_
  have hlength := length_of_mem_rowsAlong ((mem_liveChains S db).mpr hrows)
  have heval : c.toExpr.eval S db { frames := chainFrames base env.frames p.hops rows } =
      c.toExpr.eval S db (.ofRow (p.leafLabel base) (rows.getLastD source)) :=
    Expr.eval_congr S c.toExpr (fun _ _ => rfl) (agreeOn_chainFrames hsource hlength hc) rfl rfl
  rw [Condition.Holds, Condition.Holds, Condition.truth, Condition.truth, Expr.truth, Expr.truth,
    heval]

/-- Through relations no condition is unknown. -/
lemma truth_related_ne_none (hhops : p.hops ≠ []) (c : Condition) :
    (p.related base c).truth S db env ≠ none := by
  obtain ⟨h, rest, -, hrelated⟩ := related_eq hhops base c
  rw [hrelated, Condition.truth_ofExpr, Hop.existsExpr, Expr.truth_existsIn]
  exact Option.some_ne_none _

open Classical in
/-- The truth value of a condition on the row at the end of a path. -/
theorem truth_related (hhops : p.hops ≠ []) (hsource : Keyed.find? base env.frames = some source)
    {c : Condition} (hc : c.toExpr.labels ⊆ [p.leafLabel base]) :
    (p.related base c).truth S db env =
      some (decide (∃ rows, LiveChain S db source p.hops rows ∧
        c.Holds S db (.ofRow (p.leafLabel base) (rows.getLastD source)))) :=
  Truth.eq_some_decide (truth_related_ne_none S db hhops c) (holds_related S db hhops hsource hc)

open Classical in
/-- The truth value of the lack of a row at the end of a path. -/
theorem truth_missing? (hhops : p.hops ≠ []) (hsource : Keyed.find? base env.frames = some source) :
    ∃ e, p.missing? base = some e ∧
      e.truth S db env = some (decide (¬ ∃ rows, LiveChain S db source p.hops rows)) := by
  obtain ⟨h, rest, hp⟩ := List.exists_cons_of_ne_nil hhops
  have hchains := holds_existsAlong S db p.hops hsource none
  rw [hp, existsAlong, ← hp] at hchains
  simp only [Option.some.injEq, forall_eq', Condition.holds_ofExpr, ← holds_existsExpr_frames,
    mem_liveChains, reduceCtorEq, false_implies, implies_true, and_true] at hchains
  have hknown : (h.existsExpr base (existsAlong (h.label base) none rest)).truth S db env ≠ none := by
    rw [Hop.existsExpr, Expr.truth_existsIn]
    exact Option.some_ne_none _
  refine ⟨.not (h.existsExpr base (existsAlong (h.label base) none rest)),
    by rw [missing?, hp], ?_⟩
  rw [Expr.truth_not, Truth.eq_some_decide hknown hchains, Truth.neg, Option.map_some,
    Option.some.injEq]
  by_cases hchain : ∃ rows, LiveChain S db source p.hops rows <;> simp [hchain]

open Classical in
/-- Rows at the end of a path are missing when there is no live chain. -/
theorem holds_missing? (hhops : p.hops ≠ []) (hsource : Keyed.find? base env.frames = some source) :
    ∃ e, p.missing? base = some e ∧
      (e.Holds S db env ↔ ¬ ∃ rows, LiveChain S db source p.hops rows) := by
  obtain ⟨e, he, htruth⟩ := truth_missing? S db hhops hsource
  exact ⟨e, he, by rw [Expr.Holds, htruth, Option.some.injEq, decide_eq_true_iff]⟩

end ColumnPath

end DataGrid
