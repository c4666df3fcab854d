import DataGrid.Proofs.Filter.Meaning

/-!
# Groups of one filter

A group of a single node says no more than the node itself, and so do any number of such groups
around each other. As a filter on a subject the node alone may still say more: behind relations a
set filter of null is met by rows without related ones, and in a group it is not, because the test
for missing rows is added for a bare set filter only.

## Main definitions

* `DataGrid.FilterNode.wrapped` — a node inside groups that have no other node.

## Main results

* `DataGrid.FilterNode.wrapped_transparent` — when the groups do not matter, and what they lose when
  they do.
* `DataGrid.FilterNode.wrapped_null_is_lost` — a row that is lost.
-/

namespace DataGrid

open Sql

namespace FilterNode

/-- A node inside groups that have no other node, with the given operators from the outermost to the
innermost. -/
def wrapped (node : FilterNode) : List String → FilterNode
  | [] => node
  | operator :: rest => .group operator [node.wrapped rest]

section

variable {operators : List String} {node : FilterNode} {p : ColumnPath} {label : String}

/-- What compiles also compiles in groups of its own. -/
lemma exists_compile_wrapped
    (hoperators : ∀ operator ∈ operators, Junction.ofTag? operator ≠ none) {c : Condition}
    (h : node.compile p label = .ok c) : ∃ c', (node.wrapped operators).compile p label = .ok c' := by
  induction operators with
  | nil => exact ⟨c, h⟩
  | cons operator rest ih =>
    rw [List.forall_mem_cons] at hoperators
    obtain ⟨c', hc'⟩ := ih hoperators.2
    obtain ⟨junction, htag⟩ := Option.ne_none_iff_exists'.mp hoperators.1
    refine ⟨(Condition.mk false junction []).add c', ?_⟩
    rw [wrapped, compile, Junction.ofTag, readTag_eq_ok.mpr htag]
    simp only [compileInto, hc']

/-- Only a bare set filter selects missing values. -/
lemma selectsNull_wrapped (hoperators : operators ≠ []) :
    (node.wrapped operators).selectsNull = false := by
  cases operators with
  | nil => exact absurd rfl hoperators
  | cons operator rest => rfl

variable {V : Type} (S : Scalars V) (db : Database V)

/-- A group of one node has the truth value of the node: joined to nothing else, it is neither
narrowed nor widened. -/
lemma truth_wrapped (hoperators : ∀ operator ∈ operators, Junction.ofTag? operator ≠ none)
    (env : Env V) : (node.wrapped operators).truth S db p label env = node.truth S db p label env := by
  induction operators with
  | nil => rfl
  | cons operator rest ih =>
    rw [List.forall_mem_cons] at hoperators
    obtain ⟨junction, htag⟩ := Option.ne_none_iff_exists'.mp hoperators.1
    have hinner : (node.wrapped rest).kleene (LeafFilter.truth S db p label env) =
        node.truth S db p label env := ih hoperators.2
    rw [wrapped, truth, kleene, htag]
    simp only [kleeneAll, hinner, Junction.fold_cons, Junction.fold_nil, Junction.op_unit]

open Classical in
/-- The filter that a wrapped node is for the subject: that of the node, except that it asks for a
related row in any case. -/
lemma entryTruth_wrapped (hoperators : ∀ operator ∈ operators, Junction.ofTag? operator ≠ none)
    (hwrapped : operators ≠ []) (base : String) (env : Env V) (source : Row V) :
    node.entryTruth S db p base env source =
      if p.hops ≠ [] ∧ node.selectsNull = true then
        Truth.disj ((node.wrapped operators).entryTruth S db p base env source)
          (some (decide (¬ ∃ rows, LiveChain S db source p.hops rows)))
      else (node.wrapped operators).entryTruth S db p base env source := by
  have htruth : ∀ label env, (node.wrapped operators).truth S db p label env =
      node.truth S db p label env := fun label env => truth_wrapped S db hoperators env
  simp only [entryTruth, htruth, selectsNull_wrapped hwrapped]
  by_cases hhops : p.hops = []
  · simp [hhops]
  · cases node.selectsNull <;> simp [hhops]

/-- A wrapped node behind relations asks for a related row. -/
lemma exists_liveChain_of_wrapped (hwrapped : operators ≠ []) (hhops : p.hops ≠ []) {base : String}
    {env : Env V} {source : Row V}
    (h : (node.wrapped operators).entryTruth S db p base env source = some true) :
    ∃ rows, LiveChain S db source p.hops rows := by
  classical
  rw [entryTruth, if_neg hhops, selectsNull_wrapped hwrapped, if_neg Bool.false_ne_true,
    Option.some.injEq, decide_eq_true_iff] at h
  obtain ⟨rows, hchain, -⟩ := h
  exact ⟨rows, hchain⟩

/-- **Groups of one filter**: a filter that compiles also compiles in any number of groups of its
own. The groups do not matter on a column of the subject itself, nor for any tree but a set filter
of null, so no further group matters to a group. Around a set filter of null behind relations they
lose the rows without related ones, and no others.

**Proof sketch.** A group of one node is worth what the node is worth (`truth_wrapped`), and what
the tree is for the subject differs by the test for missing rows only (`entryTruth_wrapped`). -/
theorem wrapped_transparent {base : String} {d : Condition}
    (hoperators : ∀ operator ∈ operators, Junction.ofTag? operator ≠ none)
    (hwrapped : operators ≠ []) (h : node.entry p base = .ok d) :
    ∃ d', (node.wrapped operators).entry p base = .ok d' ∧
      ∀ (env : Env V) (source : Row V), Keyed.find? base env.frames = some source →
        (p.hops = [] ∨ node.selectsNull = false → d'.truth S db env = d.truth S db env) ∧
        (d.Holds S db env ↔ d'.Holds S db env ∨
          node.selectsNull = true ∧ ¬ ∃ rows, LiveChain S db source p.hops rows) ∧
        (p.hops ≠ [] → (¬ ∃ rows, LiveChain S db source p.hops rows) → ¬ d'.Holds S db env) := by
  classical
  obtain ⟨c, hc, -⟩ := bind_eq_ok.mp h
  obtain ⟨c', hc'⟩ := exists_compile_wrapped hoperators hc
  obtain ⟨_, hsame, htruth⟩ := truth_of_entry S db hc
  obtain rfl := Except.ok.inj (h.symm.trans hsame)
  obtain ⟨d', hd', htruth'⟩ := truth_of_entry S db hc'
  refine ⟨d', hd', fun env source hsource => ?_⟩
  have hchain : p.hops ≠ [] → d'.Holds S db env →
      ∃ rows, LiveChain S db source p.hops rows := by
    rw [Condition.Holds, htruth' env source hsource]
    exact fun hhops hholds => exists_liveChain_of_wrapped S db hwrapped hhops hholds
  have hnode := htruth env source hsource
  rw [entryTruth_wrapped S db hoperators hwrapped, ← htruth' env source hsource] at hnode
  refine ⟨?_, ?_, fun hhops hnone hholds => hnone (hchain hhops hholds)⟩
  · intro hplain
    rw [hnode, if_neg]
    rintro ⟨hhops, hnull⟩
    rcases hplain with hnil | hfalse
    · exact hhops hnil
    · exact absurd (hnull.symm.trans hfalse) (by decide)
  · by_cases hcase : p.hops ≠ [] ∧ node.selectsNull = true
    · rw [if_pos hcase] at hnode
      rw [Condition.Holds, hnode, Truth.disj_eq_true, Option.some.injEq, decide_eq_true_iff]
      exact or_congr_right (by simp [hcase.2])
    · rw [if_neg hcase] at hnode
      rw [Condition.Holds, hnode]
      refine (or_iff_left ?_).symm
      rintro ⟨hnull, hnone⟩
      have hnil : p.hops = [] := not_not.mp fun hhops => hcase ⟨hhops, hnull⟩
      exact hnone ⟨[], by rw [hnil, liveChain_nil_iff]⟩

end

end FilterNode

/-- A set filter of null. -/
def Zoo.unnamed : FilterNode := .leaf { filterType := "set", values := [.null] }

namespace FilterNode

/-- The filter of null on the zoo of a keeper, inside two groups. -/
theorem wrapped_transparent_keepers :
    ∃ r p d d', Zoo.registry = .ok r ∧ r.resolve Zoo.keepers "zoo.name" = .ok p ∧
      Zoo.unnamed.entry p "keepers" = .ok d ∧
      (Zoo.unnamed.wrapped ["and", "OR"]).entry p "keepers" = .ok d' ∧
      (d.Holds Scalars.ofLiterals Zoo.flock (.ofRow "keepers" Zoo.keeper) ↔
        d'.Holds Scalars.ofLiterals Zoo.flock (.ofRow "keepers" Zoo.keeper) ∨
          Zoo.unnamed.selectsNull = true ∧
            ¬ ∃ rows, LiveChain Scalars.ofLiterals Zoo.flock Zoo.keeper p.hops rows) := by
  have hspec : ∀ p d d', Zoo.unnamed.entry p "keepers" = .ok d →
      (Zoo.unnamed.wrapped ["and", "OR"]).entry p "keepers" = .ok d' →
      (d.Holds Scalars.ofLiterals Zoo.flock (.ofRow "keepers" Zoo.keeper) ↔
        d'.Holds Scalars.ofLiterals Zoo.flock (.ofRow "keepers" Zoo.keeper) ∨
          Zoo.unnamed.selectsNull = true ∧
            ¬ ∃ rows, LiveChain Scalars.ofLiterals Zoo.flock Zoo.keeper p.hops rows) := by
    intro p d d' hd hd'
    have htags : ∀ operator ∈ ["and", "OR"], Junction.ofTag? operator ≠ none := by decide
    obtain ⟨_, hsame, hrows⟩ :=
      wrapped_transparent Scalars.ofLiterals Zoo.flock htags (by decide) hd
    obtain rfl := Except.ok.inj (hd'.symm.trans hsame)
    exact (hrows _ Zoo.keeper rfl).2.1
  exact ⟨_, _, _, _, rfl, rfl, rfl, rfl, hspec _ _ _ rfl rfl⟩

/-- **A row that is lost.** A keeper without a zoo has no zoo name; the set filter of null selects
the keeper, and the group of this one filter does not. -/
theorem wrapped_null_is_lost :
    ∃ r p d d', Zoo.registry = .ok r ∧ r.resolve Zoo.keepers "zoo.name" = .ok p ∧
      Zoo.unnamed.entry p "keepers" = .ok d ∧
      (group "and" [Zoo.unnamed]).entry p "keepers" = .ok d' ∧
      d.Holds Scalars.ofLiterals Zoo.flock (.ofRow "keepers" Zoo.keeper) ∧
      ¬ d'.Holds Scalars.ofLiterals Zoo.flock (.ofRow "keepers" Zoo.keeper) :=
  ⟨_, _, _, _, rfl, rfl, rfl, rfl, by decide +kernel, by decide +kernel⟩

end FilterNode

end DataGrid
