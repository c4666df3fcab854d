import DataGrid.Proofs.Path.Standing
import DataGrid.Proofs.Store.StoredNames
import Mathlib.Data.List.Nodup

/-!
# Names of joined tables as the store reads them

Declared names are never longer than what the store looks at. The names of joined tables grow with
every hop, and each of them begins with all earlier ones: as soon as one of them is that long, all
later ones are the same name for the store. A condition there that compares the rows of two tables
then compares a row with itself.

## Main definitions

* `DataGrid.ColumnPath.labels` — the names along a path.

## Main results

* `DataGrid.Hop.storedName_label_eq_iff` — when the names of neighbours are the same for the store.
* `DataGrid.nodup_stored_labelsAlong_iff` — when the names along hops stay different.
* `DataGrid.Registry.stored_names_distinct_iff` — these are the paths whose filters, sort keys and
  joins the store reads as they are meant.
-/

namespace DataGrid

open Sql

/-! ## Names along hops -/

/-- The names of the tables along hops, with the one that they start from. -/
def labelsAlong (label : String) (hops : List Hop) : List String :=
  label :: (joinsAlong label hops).map Join.label

/-- The names of the tables along a path, with that of the subject. -/
def ColumnPath.labels (p : ColumnPath) (base : String) : List String := labelsAlong base p.hops

/-- The labels along a chain are that of its first table and those along the rest. -/
lemma labelsAlong_cons (label : String) (hop : Hop) (rest : List Hop) :
    labelsAlong label (hop :: rest) = label :: labelsAlong (hop.label label) rest := rfl

/-- The first name along hops is the one that they start from. -/
lemma mem_labelsAlong (label : String) (hops : List Hop) : label ∈ labelsAlong label hops :=
  List.mem_cons_self

/-- Every later name goes on behind the first one and its underscores. -/
lemma exists_of_mem_labelsAlong {label name : String} {hop : Hop} {rest : List Hop}
    (h : name ∈ labelsAlong (hop.label label) rest) : ∃ back, name = label ++ "__" ++ back := by
  induction rest generalizing label hop with
  | nil => exact ⟨hop.name, List.mem_singleton.mp h⟩
  | cons next rest ih =>
    rw [labelsAlong_cons, List.mem_cons] at h
    rcases h with rfl | h
    · exact ⟨hop.name, rfl⟩
    · obtain ⟨back, rfl⟩ := ih h
      exact ⟨hop.name ++ "__" ++ back, by simp only [Hop.label, String.append_assoc]⟩

/-- The last name along hops is that of the table at their end. -/
lemma labelAlong_mem (label : String) (hops : List Hop) :
    labelAlong label hops ∈ labelsAlong label hops :=
  List.mem_of_getLast? (getLast?_labels label hops)

/-- The octets that hops add to a name, two of them for the underscores before each relation. -/
def octetsAlong : List Hop → ℕ
  | [] => 0
  | hop :: rest => 2 + hop.name.utf8ByteSize + octetsAlong rest

/-- The octets of the name at the end of hops. -/
lemma utf8ByteSize_labelAlong (label : String) (hops : List Hop) :
    (labelAlong label hops).utf8ByteSize = label.utf8ByteSize + octetsAlong hops := by
  induction hops generalizing label with
  | nil => rfl
  | cons hop rest ih =>
    have hmarks : "__".utf8ByteSize = 2 := rfl
    have hstep : labelAlong label (hop :: rest) = labelAlong (hop.label label) rest := rfl
    rw [hstep, ih, Hop.label, String.utf8ByteSize_append, String.utf8ByteSize_append, hmarks,
      octetsAlong]
    omega

/-- The store takes a table for the one before exactly if its name fills the room. -/
lemma Hop.storedName_label_eq_iff (hop : Hop) (parent : String) :
    storedName (hop.label parent) = storedName parent ↔ nameLimit ≤ parent.utf8ByteSize :=
  storedName_append_eq_iff parent hop.name

/-- **The names along hops** stay different for the store exactly if the last but one leaves room.

**Proof sketch.** Induction on the hops. All later names go on behind the first one, so if that one
leaves room it is different from them, and otherwise it is the same as the next one. -/
theorem nodup_stored_labelsAlong_iff (label : String) {hops : List Hop} (h : hops ≠ []) :
    ((labelsAlong label hops).map storedName).Nodup ↔
      (labelAlong label hops.dropLast).utf8ByteSize < nameLimit := by
  induction hops generalizing label with
  | nil => exact absurd rfl h
  | cons hop rest ih =>
    have hfirst : storedName label ∉ (labelsAlong (hop.label label) rest).map storedName ↔
        label.utf8ByteSize < nameLimit := by
      rw [← Nat.not_le, not_iff_not]
      constructor
      · intro hmem
        obtain ⟨name, hname, hsame⟩ := List.mem_map.mp hmem
        obtain ⟨back, rfl⟩ := exists_of_mem_labelsAlong hname
        exact (storedName_append_eq_iff label back).mp hsame
      · intro hfull
        rw [← (hop.storedName_label_eq_iff label).mpr hfull]
        exact List.mem_map_of_mem (mem_labelsAlong _ rest)
    rw [labelsAlong_cons, List.map_cons, List.nodup_cons, hfirst]
    cases rest with
    | nil => exact and_iff_left (List.nodup_singleton _)
    | cons next rest =>
      have hdrop : labelAlong label (hop :: next :: rest).dropLast =
          labelAlong (hop.label label) (next :: rest).dropLast := rfl
      have hgrows : label.utf8ByteSize ≤
          (labelAlong label (hop :: next :: rest).dropLast).utf8ByteSize := by
        rw [utf8ByteSize_labelAlong]
        exact Nat.le_add_right _ _
      rw [ih (hop.label label) (List.cons_ne_nil _ _), ← hdrop]
      exact and_iff_right_of_imp fun hlast => Nat.lt_of_le_of_lt hgrows hlast

/-! ## References along hops -/

section

variable {names : List String} {sound : Reference → Prop} {label : String} {scope : Bindings}

/-- References are sound as long as their names, and those in scope, are among the given ones. -/
def SoundAmong (names : List String) (sound : Reference → Prop) : Prop :=
  ∀ label ∈ names, ∀ column scope, (∀ b ∈ scope, b.1 ∈ names) → sound ⟨label, column, scope⟩

/-- If names stay different, references among them are kept. -/
lemma soundAmong_isKept (h : (names.map storedName).Nodup) : SoundAmong names Reference.IsKept := by
  intro label hlabel column scope hscope
  exact Reference.isKept_of_injective (fun a ha b hb => List.inj_on_of_nodup_map h ha hb) hlabel
    hscope

/-- What joins the table of a hop to its parent takes columns from these two. -/
lemma Hop.refers_correlation {hop : Hop} (hsound : SoundAmong names sound) (hparent : label ∈ names)
    (hlabel : hop.label label ∈ names) (hscope : ∀ b ∈ scope, b.1 ∈ names) :
    (hop.correlation label).Refers sound scope := by
  rw [Hop.correlation, Condition.refers_addExpr?, Condition.refers_addExpr, Expr.refers_compare,
    Expr.refers_column, Expr.refers_column]
  refine ⟨⟨Condition.refers_empty _ _, hsound _ hlabel _ _ hscope, hsound _ hparent _ _ hscope⟩, ?_⟩
  intro guard hguard
  obtain ⟨column, -, rfl⟩ := Option.map_eq_some_iff.mp hguard
  rw [Expr.refers_isNull, Expr.refers_column]
  exact hsound _ hlabel _ _ hscope

/-- Existence tests along hops take columns from the tables there, besides what stands inside. -/
lemma SoundAmong.refers_existsAlong {hops : List Hop} (hsound : SoundAmong names sound)
    (hlabels : labelsAlong label hops ⊆ names) {inner : Option Condition}
    (hinner : ∀ scope : Bindings, (∀ b ∈ scope, b.1 ∈ names) →
      ∀ c, inner = some c → c.Refers sound scope)
    (hscope : ∀ b ∈ scope, b.1 ∈ names) :
    ∀ c, existsAlong label inner hops = some c → c.Refers sound scope := by
  induction hops generalizing label scope with
  | nil => exact hinner scope hscope
  | cons hop rest ih =>
    rw [labelsAlong_cons, List.cons_subset] at hlabels
    have hlabel := hlabels.2 (mem_labelsAlong (hop.label label) rest)
    have hwider : ∀ b ∈ (hop.label label, hop.table) :: scope, b.1 ∈ names :=
      List.forall_mem_cons.mpr ⟨hlabel, hscope⟩
    intro c hc
    rw [existsAlong, Option.some.injEq] at hc
    rw [← hc, Condition.refers_ofExpr, Hop.existsExpr, Expr.refers_existsIn]
    exact Condition.refers_add?.mpr
      ⟨Hop.refers_correlation hsound hlabels.1 hlabel hwider, ih hlabels.2 hwider⟩

/-- So do joins along hops, behind which the tables in scope are still among the given ones. -/
lemma SoundAmong.refers_joinsAlong {hops : List Hop} (hsound : SoundAmong names sound)
    (hlabels : labelsAlong label hops ⊆ names) (hscope : ∀ b ∈ scope, b.1 ∈ names) :
    (∀ ref ∈ referencesThrough scope (joinsAlong label hops), sound ref) ∧
      ∀ b ∈ scopeThrough scope (joinsAlong label hops), b.1 ∈ names := by
  induction hops generalizing label scope with
  | nil => exact ⟨List.forall_mem_nil _, hscope⟩
  | cons hop rest ih =>
    rw [labelsAlong_cons, List.cons_subset] at hlabels
    have hlabel := hlabels.2 (mem_labelsAlong (hop.label label) rest)
    have hwider : ∀ b ∈ (hop.label label, hop.table) :: scope, b.1 ∈ names :=
      List.forall_mem_cons.mpr ⟨hlabel, hscope⟩
    obtain ⟨hlater, hend⟩ := ih hlabels.2 hwider
    refine ⟨List.forall_mem_append.mpr ⟨?_, hlater⟩, hend⟩
    exact Hop.refers_correlation hsound hlabels.1 hlabel hwider

/-! ## References that are not kept -/

/-- If what joins a table to its parent is kept, the name of the parent leaves room.

Otherwise both tables have one name, and the key of the parent is taken from the other row. -/
lemma Hop.lt_of_isKept_correlation {hop : Hop} {table : String}
    (h : (hop.correlation label).Refers Reference.IsKept ((hop.label label, table) :: scope)) :
    label.utf8ByteSize < nameLimit := by
  by_contra hfull
  rw [Hop.correlation, Condition.refers_addExpr?, Condition.refers_addExpr, Expr.refers_compare,
    Expr.refers_column, Expr.refers_column] at h
  have hplace : Reference.place ⟨label, some hop.localKey, (hop.label label, table) :: scope⟩ = 0 := by
    have hkept : Reference.IsKept ⟨label, _, _⟩ := h.1.2.2
    have hsame := (hop.storedName_label_eq_iff label).mpr (Nat.not_lt.mp hfull)
    rw [← hkept]
    simp [Reference.place, Reference.stored, hsame]
  have hother : hop.label label ≠ label := by
    intro hsame
    have hlength := hop.length_lt_label label
    rw [hsame] at hlength
    omega
  simp [Reference.place, hother] at hplace

/-- If existence tests along hops are kept, the last name but one leaves room. -/
lemma lt_of_isKept_existsAlong {hops : List Hop} (hhops : hops ≠ []) {inner : Option Condition}
    (h : ∀ c, existsAlong label inner hops = some c → c.Refers Reference.IsKept scope) :
    (labelAlong label hops.dropLast).utf8ByteSize < nameLimit := by
  induction hops generalizing label scope with
  | nil => exact absurd rfl hhops
  | cons hop rest ih =>
    have hone := h _ rfl
    rw [Condition.refers_ofExpr, Hop.existsExpr, Expr.refers_existsIn] at hone
    obtain ⟨hkeys, hinner⟩ := Condition.refers_add?.mp hone
    cases rest with
    | nil => exact Hop.lt_of_isKept_correlation hkeys
    | cons next rest => exact ih (List.cons_ne_nil _ _) hinner

/-- So it is if joins along hops are kept. -/
lemma lt_of_isKept_joinsAlong {hops : List Hop} (hhops : hops ≠ [])
    (h : ∀ ref ∈ referencesThrough scope (joinsAlong label hops), ref.IsKept) :
    (labelAlong label hops.dropLast).utf8ByteSize < nameLimit := by
  induction hops generalizing label scope with
  | nil => exact absurd rfl hhops
  | cons hop rest ih =>
    obtain ⟨hkeys, hlater⟩ := List.forall_mem_append.mp h
    cases rest with
    | nil => exact Hop.lt_of_isKept_correlation hkeys
    | cons next rest => exact ih (List.cons_ne_nil _ _) hlater

end

/-! ## Paths -/

section

variable {p : ColumnPath} {base : String} {scope : Bindings}

/-- Names along a path that stay different keep the test for rows that meet a condition. -/
lemma ColumnPath.isKept_related_iff (hhops : p.hops ≠ [])
    (hscope : ∀ b ∈ scope, b.1 ∈ p.labels base) {c : Condition}
    (hc : ((p.labels base).map storedName).Nodup → ∀ scope : Bindings,
      (∀ b ∈ scope, b.1 ∈ p.labels base) → c.Refers Reference.IsKept scope) :
    (p.related base c).Refers Reference.IsKept scope ↔
      ((p.labels base).map storedName).Nodup := by
  have hchain : existsAlong base (some c) p.hops = some (p.related base c) := by
    unfold ColumnPath.related
    cases p.hops <;> rfl
  constructor
  · intro hkept
    rw [labels, nodup_stored_labelsAlong_iff base hhops]
    have hall : ∀ d, existsAlong base (some c) p.hops = some d → d.Refers Reference.IsKept scope := by
      intro d hd
      rwa [← Option.some.inj (hchain.symm.trans hd)]
    exact lt_of_isKept_existsAlong hhops hall
  · intro hnodup
    refine (soundAmong_isKept hnodup).refers_existsAlong (List.Subset.refl _) ?_ hscope _ hchain
    intro scope hscope d hd
    rw [← Option.some.inj hd]
    exact hc hnodup scope hscope

/-- So they do with the test for missing rows. -/
lemma ColumnPath.isKept_missing? (hnodup : ((p.labels base).map storedName).Nodup)
    (hscope : ∀ b ∈ scope, b.1 ∈ p.labels base) {missing : Expr}
    (h : p.missing? base = some missing) : missing.Refers Reference.IsKept scope := by
  have hchain : ∀ c, existsAlong base none p.hops = some c → c.Refers Reference.IsKept scope :=
    (soundAmong_isKept hnodup).refers_existsAlong (List.Subset.refl _) nofun hscope
  unfold missing? at h
  split at h
  · cases h
  · next hop rest hhops =>
    rw [← Option.some.inj h, Expr.refers_not, ← Condition.refers_ofExpr]
    exact hchain _ (by rw [hhops, existsAlong])

/-- **A filter is read as it is meant** exactly if the names along its path stay different.

**Proof sketch.** The condition of the tree tests the column at the end of the path, whose name is
one of those along it. -/
theorem FilterNode.isKept_entry_iff {node : FilterNode} {c : Condition} (hhops : p.hops ≠ [])
    (hscope : ∀ b ∈ scope, b.1 ∈ p.labels base) (h : node.entry p base = .ok c) :
    c.Refers Reference.IsKept scope ↔ ((p.labels base).map storedName).Nodup := by
  obtain ⟨predicate, hpredicate, h⟩ := bind_eq_ok.mp h
  have hinner : ((p.labels base).map storedName).Nodup → ∀ scope : Bindings,
      (∀ b ∈ scope, b.1 ∈ p.labels base) → predicate.Refers Reference.IsKept scope := by
    intro hnodup scope hscope
    have hleaf := soundAmong_isKept hnodup _ (labelAlong_mem base p.hops) (some p.leaf) scope hscope
    rw [Condition.refers_iff]
    refine node.forall_terms_of_compile (fun t ht => ht.refers hleaf) ?_ hpredicate
    intro negated junction terms hterms
    exact (Expr.refers_group _ _ _).mpr hterms
  have hrelated := ColumnPath.isKept_related_iff hhops hscope hinner
  rw [← pure_eq_ok.mp h]
  split
  · next missing hmissing _ =>
    rw [Condition.refers_addExpr, Condition.refers_add, hrelated]
    constructor
    · exact fun hkept => hkept.1.2
    · intro hnodup
      exact ⟨⟨Condition.refers_empty _ _, hnodup⟩, ColumnPath.isKept_missing? hnodup hscope hmissing⟩
  · exact hrelated

/-- **Joins along a path are read as they are meant** exactly if the names along it stay different.
-/
theorem ColumnPath.isKept_joins_iff (hhops : p.hops ≠ [])
    (hscope : ∀ b ∈ scope, b.1 ∈ p.labels base) :
    (∀ ref ∈ referencesThrough scope (p.joins base), ref.IsKept) ↔
      ((p.labels base).map storedName).Nodup := by
  constructor
  · intro hkept
    rw [labels, nodup_stored_labelsAlong_iff base hhops]
    exact lt_of_isKept_joinsAlong hhops hkept
  · intro hnodup
    exact ((soundAmong_isKept hnodup).refers_joinsAlong (List.Subset.refl _) hscope).1

/-- **A sort key is read as it is meant** exactly if the names along its path stay different.

**Proof sketch.** The first hop is the table that the value is looked up in, and its keys are
compared in the filter of the lookup; those of the others are compared in joins. -/
theorem ColumnPath.isKept_sortKey_iff (hhops : p.hops ≠ [])
    (hscope : ∀ b ∈ scope, b.1 ∈ p.labels base) (d : Direction) :
    (p.sortKey base d).Refers Reference.IsKept scope ↔
      ((p.labels base).map storedName).Nodup := by
  unfold sortKey labels leafLabel
  unfold labels at hscope
  dsimp only
  cases hp : p.hops with
  | nil => exact absurd hp hhops
  | cons hop rest =>
    rw [hp] at hscope
    dsimp only
    rw [Expr.refers_lookup]
    constructor
    · rintro ⟨-, hjoins, hfilter⟩
      rw [nodup_stored_labelsAlong_iff base (List.cons_ne_nil _ _)]
      cases rest with
      | nil => exact Hop.lt_of_isKept_correlation (Condition.refers_add.mp hfilter).2
      | cons next rest =>
        have hlast : (labelAlong (hop.label base) (next :: rest).dropLast).utf8ByteSize <
            nameLimit := lt_of_isKept_joinsAlong (List.cons_ne_nil _ _) hjoins
        exact hlast
    · intro hnodup
      have hsound := soundAmong_isKept hnodup
      have hrest : labelsAlong (hop.label base) rest ⊆ labelsAlong base (hop :: rest) :=
        List.subset_cons_self _ _
      have hlabel := hrest (mem_labelsAlong (hop.label base) rest)
      have hwider : ∀ b ∈ (hop.label base, hop.table) :: scope,
          b.1 ∈ labelsAlong base (hop :: rest) := List.forall_mem_cons.mpr ⟨hlabel, hscope⟩
      obtain ⟨hjoins, hend⟩ := hsound.refers_joinsAlong hrest hwider
      refine ⟨?_, hjoins, Condition.refers_add.mpr ⟨Condition.refers_empty _ _, ?_⟩⟩
      · exact refers_expr.mpr (hsound _ (labelAlong_mem base (hop :: rest)) _ _ hend)
      · exact Hop.refers_correlation hsound (mem_labelsAlong base _) hlabel hend

/-! ## Declared names -/

/-- The names that a hop brings into a statement, besides that of the row it is joined under. -/
def Hop.declaredNames (hop : Hop) : List String :=
  [hop.name, hop.table, hop.localKey, hop.foreignKey] ++ hop.softDelete.toList

/-- A name that is not refused is read as it is. -/
lemma storedName_of_checkName {role : NameRole} {name : String} (h : checkName role name = .ok ()) :
    storedName name = name := by
  unfold checkName at h
  split at h
  · next hsafe =>
    unfold isSafeName at hsafe
    split at hsafe
    · cases hsafe
    · rw [Bool.and_eq_true, decide_eq_true_eq] at hsafe
      exact storedName_eq_self hsafe.2
  · cases h

variable {r : Registry}

/-- The names that a declared hop brings into a statement are read as they are. -/
lemma Hop.IsDeclared.storedName_eq_self (hchecked : ∀ e, r.Has e → e.check = .ok ()) {hop : Hop}
    (h : hop.IsDeclared r) : ∀ name ∈ hop.declaredNames, storedName name = name := by
  obtain ⟨source, relation, target, hsource, hrelation, htarget, rfl⟩ := h
  obtain ⟨-, -, -, -, hrelations, -⟩ := Entity.check_spec (hchecked source hsource)
  obtain ⟨htable, -, hsoft, -⟩ := Entity.check_spec (hchecked target htarget)
  obtain ⟨_, hname, hkeys⟩ := bind_eq_ok.mp (hrelations relation hrelation)
  obtain ⟨_, hlocal, hforeign⟩ := bind_eq_ok.mp hkeys
  refine List.forall_mem_append.mpr ⟨?_, fun name hmem => ?_⟩
  · simp only [List.forall_mem_cons]
    exact ⟨storedName_of_checkName hname, storedName_of_checkName htable,
      storedName_of_checkName hlocal, storedName_of_checkName hforeign, List.forall_mem_nil _⟩
  · exact storedName_of_checkName (hsoft name (Option.mem_toList.mp hmem))

/-- **Names along a path stay different for the store** exactly if the last name but one leaves
room, and these are the paths whose filters, sort keys and joins take all columns from the rows that
are meant. Declared names are always read as they are; it is the names of joined tables that grow.

**Proof sketch.** The names along hops begin with all earlier ones (`nodup_stored_labelsAlong_iff`).
If they stay different, references are kept, since all rows in scope go by one of them; and if they
do not, the keys of the last hop are both taken from its own row
(`Hop.lt_of_isKept_correlation`). -/
theorem Registry.stored_names_distinct_iff (haccepted : r.IsAccepted) {e : Entity} (he : r.Has e)
    {id : String} {p : ColumnPath} (hp : r.resolve e id = .ok p) (hhops : p.hops ≠ []) :
    (∀ name ∈ e.table :: p.leaf :: p.hops.flatMap Hop.declaredNames, storedName name = name) ∧
    (((p.labels e.table).map storedName).Nodup ↔
      e.table.utf8ByteSize + octetsAlong p.hops.dropLast < nameLimit) ∧
    (∀ (node : FilterNode) (c : Condition), node.entry p e.table = .ok c →
      (c.Refers Reference.IsKept [(e.table, e.table)] ↔
        ((p.labels e.table).map storedName).Nodup)) ∧
    (∀ d : Direction, (p.sortKey e.table d).Refers Reference.IsKept [(e.table, e.table)] ↔
      ((p.labels e.table).map storedName).Nodup) ∧
    ((∀ ref ∈ referencesThrough [(e.table, e.table)] (p.joins e.table), ref.IsKept) ↔
      ((p.labels e.table).map storedName).Nodup) := by
  have hscope : ∀ b ∈ [(e.table, e.table)], b.1 ∈ p.labels e.table :=
    List.forall_mem_singleton.mpr (mem_labelsAlong e.table p.hops)
  refine ⟨?_, ?_, fun node c h => node.isKept_entry_iff hhops hscope h,
    p.isKept_sortKey_iff hhops hscope, p.isKept_joins_iff hhops hscope⟩
  · obtain ⟨hdeclared, reached, c, hreached, hc, hleaf⟩ := isDeclared_of_resolve he hp
    obtain ⟨htable, -⟩ := Entity.check_spec (haccepted.check_eq_ok he)
    obtain ⟨-, -, -, hcolumns, -⟩ := Entity.check_spec (haccepted.check_eq_ok hreached)
    rw [List.forall_mem_cons, List.forall_mem_cons, List.forall_mem_flatMap, hleaf]
    exact ⟨storedName_of_checkName htable, storedName_of_checkName (hcolumns c hc),
      fun hop hop_mem => (hdeclared hop hop_mem).storedName_eq_self fun _ => haccepted.check_eq_ok⟩
  · rw [ColumnPath.labels, nodup_stored_labelsAlong_iff e.table hhops, utf8ByteSize_labelAlong]

/-- From flamingos to the zoo of their keeper all names stay different. -/
theorem Registry.stored_names_distinct_keepers :
    ∃ r p, Zoo.registry = .ok r ∧ r.Has Zoo.flamingos ∧
      r.resolve Zoo.flamingos "keeper.zoo.name" = .ok p ∧ p.hops ≠ [] ∧
      ((p.labels "flamingos").map storedName).Nodup ∧
      ∀ d, (p.sortKey "flamingos" d).Refers Reference.IsKept [("flamingos", "flamingos")] := by
  have haccepted : ∀ r, Zoo.registry = .ok r → r.IsAccepted := fun _ => isAccepted_of_ofEntities
  refine ⟨_, _, rfl, ⟨"flamingos", rfl⟩, rfl, List.cons_ne_nil _ _, ?_⟩
  obtain ⟨-, hdistinct, -, hkeys, -⟩ := stored_names_distinct_iff (haccepted _ rfl)
    ⟨"flamingos", rfl⟩ (rfl : Registry.resolve _ Zoo.flamingos "keeper.zoo.name" = .ok _)
    (List.cons_ne_nil _ _)
  have hroom := hdistinct.mpr (by decide)
  exact ⟨hroom, fun d => (hkeys d).mpr hroom⟩

end

/-! ## Names that are cut off -/

/-- The guest book of the zoo, where an entry may reply to another one. -/
def Zoo.guestBook : Entity where
  name := "entries"
  tableName := some "entries_in_the_guest_book_of_the_zoo"
  columns := [⟨"id", .integer⟩, ⟨"replied_to_id", .integer⟩, ⟨"author", .text⟩]
  relations := [.belongingTo "entry_that_this_one_replies_to" "entries" "replied_to_id"]

/-- From an entry to the one that it replies to. -/
def Zoo.reply : Hop :=
  (Relation.belongingTo "entry_that_this_one_replies_to" "entries" "replied_to_id").hop guestBook

/-- The author of the entry two replies back. -/
def Zoo.authorRepliedTo : ColumnPath where
  id := "entry_that_this_one_replies_to.entry_that_this_one_replies_to.author"
  hops := [reply, reply]
  leaf := "author"
  keys := []
  kind := .text

/-- The entries for which it is Ann. -/
def Zoo.repliedToAnn : FilterNode := .leaf { filterType := "set", values := [.string "Ann"] }

/-- The schema of the guest book is accepted. Behind two replies the names of the joined tables are
the same for the store, and a filter there takes a column from another row than the one meant. -/
theorem Registry.replies_not_distinct :
    ∃ r, Registry.ofEntities [Zoo.guestBook] = .ok r ∧ r.Has Zoo.guestBook ∧
      r.resolve Zoo.guestBook Zoo.authorRepliedTo.id = .ok Zoo.authorRepliedTo ∧
      ¬((Zoo.authorRepliedTo.labels Zoo.guestBook.table).map storedName).Nodup ∧
      ∃ c, Zoo.repliedToAnn.entry Zoo.authorRepliedTo Zoo.guestBook.table = .ok c ∧
        ¬c.Refers Reference.IsKept [(Zoo.guestBook.table, Zoo.guestBook.table)] := by
  have hhops : Zoo.authorRepliedTo.hops ≠ [] := List.cons_ne_nil _ _
  have hlong : ¬((Zoo.authorRepliedTo.labels Zoo.guestBook.table).map storedName).Nodup := by
    rw [ColumnPath.labels, nodup_stored_labelsAlong_iff _ hhops, utf8ByteSize_labelAlong]
    decide
  have hscope : ∀ b ∈ [(Zoo.guestBook.table, Zoo.guestBook.table)],
      b.1 ∈ Zoo.authorRepliedTo.labels Zoo.guestBook.table :=
    List.forall_mem_singleton.mpr (mem_labelsAlong _ _)
  obtain ⟨c, hc⟩ : ∃ c, Zoo.repliedToAnn.entry Zoo.authorRepliedTo Zoo.guestBook.table = .ok c :=
    ⟨_, rfl⟩
  refine ⟨_, rfl, ⟨"entries", rfl⟩, rfl, hlong, c, hc, fun hkept => hlong ?_⟩
  exact (FilterNode.isKept_entry_iff hhops hscope hc).mp hkept

end DataGrid
