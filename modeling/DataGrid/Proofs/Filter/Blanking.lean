import DataGrid.Filter.Compile
import DataGrid.Proofs.Outcome
import DataGrid.Proofs.Store.Blanking

/-!
# Filters without their texts

Two filter trees have the same blanked form when they differ in the texts of their operands only:
in a string that is compared with, in strings among the values of a set filter, and in the ends of
a period. Such trees compile to conditions that differ in values only, where both compile: texts
decide whether there is a condition, and what its values are, but nothing else.

## Main definitions

* `DataGrid.Json.blanked`, `DataGrid.LeafFilter.blanked`, `DataGrid.FilterNode.blanked` — operands
  and filters without their texts.

## Main results

* `DataGrid.LeafFilter.blanked_eq_of_compile`, `DataGrid.FilterNode.blanked_eq_of_compile` — the
  condition of a leaf and of a tree, up to values.
* `DataGrid.FilterNode.blanked_eq_of_entry` — the condition on the subject, up to values.
-/

namespace DataGrid

open Sql

/-! ## Filters without texts -/

/-- An operand without its text. -/
def Json.blanked : Json → Json
  | .string _ => .string ""
  | other => other

/-- Blanking neither makes nor removes a null. -/
@[simp] theorem Json.isNull_blanked (j : Json) : j.blanked.isNull = j.isNull := by
  cases j <;> rfl

/-- A leaf filter without the texts of its operands. -/
def LeafFilter.blanked (f : LeafFilter) : LeafFilter :=
  { f with
    filter := f.filter.map Json.blanked
    filterTo := f.filterTo.map Json.blanked
    dateFrom := f.dateFrom.map fun _ => ""
    dateTo := f.dateTo.map fun _ => ""
    values := f.values.map Json.blanked }

mutual

/-- A filter tree without the texts of its operands. -/
def FilterNode.blanked : FilterNode → FilterNode
  | .leaf f => .leaf f.blanked
  | .group operator conditions => .group operator (FilterNode.blankedAll conditions)

/-- Several filter trees without the texts of their operands. -/
def FilterNode.blankedAll : List FilterNode → List FilterNode
  | [] => []
  | node :: rest => node.blanked :: FilterNode.blankedAll rest

end

/-! ## Leaves -/

/-- Values that are read one by one become as many literals. -/
lemma length_of_mapM_eq_ok {ε α β : Type} {f : α → Except ε β} {l : List α} {l' : List β}
    (h : l.mapM f = .ok l') : l'.length = l.length := by
  induction l generalizing l' with
  | nil => rw [← pure_eq_ok.mp h, List.length_nil]; rfl
  | cons a rest ih =>
    rw [List.mapM_cons] at h
    obtain ⟨b, -, h⟩ := bind_eq_ok.mp h
    obtain ⟨bs, hbs, h⟩ := bind_eq_ok.mp h
    rw [← pure_eq_ok.mp h, List.length_cons, List.length_cons, ih hbs]

namespace LeafFilter

variable {f g : LeafFilter} {p : ColumnPath} {label : String} {c d : Condition}

/-- Whether a set filter selects missing values does not depend on texts. -/
lemma selectsNull_blanked (f : LeafFilter) : f.blanked.selectsNull = f.selectsNull := by
  simp [selectsNull, blanked, List.any_map, Function.comp_def]

/-- Nor does the number of its other values. -/
lemma length_filter_blanked (f : LeafFilter) :
    (f.blanked.values.filter fun v => !v.isNull).length =
      (f.values.filter fun v => !v.isNull).length := by
  simp [blanked, List.filter_map, Function.comp_def]

/-- Set filters up to texts have equally many literals. -/
lemma length_literals_eq {values values' : List Literal} (h : f.blanked = g.blanked)
    (hf : f.literals p = .ok values) (hg : g.literals p = .ok values') :
    values.length = values'.length := by
  rw [length_of_mapM_eq_ok hf, length_of_mapM_eq_ok hg]
  exact eq_of_blanked (fun f : LeafFilter => (f.values.filter fun v => !v.isNull).length) h
    length_filter_blanked

/-- Filters up to texts have the same operator. -/
lemma operatorTag_eq (h : f.blanked = g.blanked) : f.operatorTag p = g.operatorTag p :=
  eq_of_blanked (fun f => f.operatorTag p) h fun _ => rfl

/-- Set filters up to values. -/
lemma blanked_eq_of_compileSet (h : f.blanked = g.blanked) (hc : f.compileSet p label = .ok c)
    (hd : g.compileSet p label = .ok d) : c.blanked = d.blanked := by
  unfold compileSet at hc hd
  split at hc
  · cases hc
  · split at hd
    · cases hd
    · obtain ⟨values, hvalues, hc⟩ := bind_eq_ok.mp hc
      obtain ⟨values', hvalues', hd⟩ := bind_eq_ok.mp hd
      have hlength := length_literals_eq h hvalues hvalues'
      have hempty : values.isEmpty = values'.isEmpty := by
        rw [Bool.eq_iff_iff, List.isEmpty_iff_length_eq_zero, List.isEmpty_iff_length_eq_zero,
          hlength]
      rw [← pure_eq_ok.mp hc, ← pure_eq_ok.mp hd, hempty,
        eq_of_blanked selectsNull h selectsNull_blanked]
      split <;> simp [Condition.any, Expr.blanked, hlength]

/-- Text filters up to values. -/
lemma blanked_eq_of_compileText (h : f.blanked = g.blanked) (hc : f.compileText p label = .ok c)
    (hd : g.compileText p label = .ok d) : c.blanked = d.blanked := by
  unfold compileText at hc hd
  rw [operatorTag_eq h] at hc
  obtain ⟨tag, -, hc, hd⟩ := exists_common_of_bind_eq_ok hc hd
  obtain ⟨operator, -, hc, hd⟩ := exists_common_of_bind_eq_ok hc hd
  cases operator with
  | blank | notBlank => rw [← pure_eq_ok.mp hc, ← pure_eq_ok.mp hd]
  | equals | notEqual | contains | notContains | startsWith | endsWith =>
    obtain ⟨_, -, hc⟩ := bind_eq_ok.mp hc
    obtain ⟨_, -, hd⟩ := bind_eq_ok.mp hd
    rw [← pure_eq_ok.mp hc, ← pure_eq_ok.mp hd]
    rfl

/-- Number filters up to values. -/
lemma blanked_eq_of_compileNumber (h : f.blanked = g.blanked)
    (hc : f.compileNumber p label = .ok c) (hd : g.compileNumber p label = .ok d) :
    c.blanked = d.blanked := by
  unfold compileNumber at hc hd
  rw [operatorTag_eq h] at hc
  obtain ⟨tag, -, hc, hd⟩ := exists_common_of_bind_eq_ok hc hd
  obtain ⟨operator, -, hc, hd⟩ := exists_common_of_bind_eq_ok hc hd
  cases operator with
  | blank | notBlank => rw [← pure_eq_ok.mp hc, ← pure_eq_ok.mp hd]
  | inRange =>
    obtain ⟨_, -, hc⟩ := bind_eq_ok.mp hc
    obtain ⟨_, -, hc⟩ := bind_eq_ok.mp hc
    obtain ⟨_, -, hd⟩ := bind_eq_ok.mp hd
    obtain ⟨_, -, hd⟩ := bind_eq_ok.mp hd
    rw [← pure_eq_ok.mp hc, ← pure_eq_ok.mp hd]
    rfl
  | _ =>
    obtain ⟨_, -, hc⟩ := bind_eq_ok.mp hc
    obtain ⟨_, -, hd⟩ := bind_eq_ok.mp hd
    rw [← pure_eq_ok.mp hc, ← pure_eq_ok.mp hd]
    rfl

/-- Date filters up to values. -/
lemma blanked_eq_of_compileDate (h : f.blanked = g.blanked) (hc : f.compileDate p label = .ok c)
    (hd : g.compileDate p label = .ok d) : c.blanked = d.blanked := by
  unfold compileDate at hc hd
  rw [operatorTag_eq h] at hc
  obtain ⟨tag, -, hc, hd⟩ := exists_common_of_bind_eq_ok hc hd
  obtain ⟨operator, -, hc, hd⟩ := exists_common_of_bind_eq_ok hc hd
  cases operator with
  | blank | notBlank => rw [← pure_eq_ok.mp hc, ← pure_eq_ok.mp hd]
  | inRange =>
    obtain ⟨_, -, hc⟩ := bind_eq_ok.mp hc
    obtain ⟨_, -, hd⟩ := bind_eq_ok.mp hd
    obtain ⟨column, -, hc, hd⟩ := exists_common_of_bind_eq_ok hc hd
    obtain ⟨_, -, hc⟩ := bind_eq_ok.mp hc
    obtain ⟨_, -, hd⟩ := bind_eq_ok.mp hd
    rw [← pure_eq_ok.mp hc, ← pure_eq_ok.mp hd]
    rfl
  | _ =>
    obtain ⟨column, -, hc, hd⟩ := exists_common_of_bind_eq_ok hc hd
    obtain ⟨_, -, hc⟩ := bind_eq_ok.mp hc
    obtain ⟨_, -, hd⟩ := bind_eq_ok.mp hd
    rw [← pure_eq_ok.mp hc, ← pure_eq_ok.mp hd]
    rfl

/-- **The condition of a leaf** is the same up to values if the filters are the same up to texts. -/
theorem blanked_eq_of_compile (h : f.blanked = g.blanked) (hc : f.compile p label = .ok c)
    (hd : g.compile p label = .ok d) : c.blanked = d.blanked := by
  have hkind : f.filterType = g.filterType := eq_of_blanked filterType h fun _ => rfl
  unfold compile at hc hd
  rw [hkind] at hc
  obtain ⟨kind, -, hc, hd⟩ := exists_common_of_bind_eq_ok hc hd
  cases kind with
  | set => exact blanked_eq_of_compileSet h hc hd
  | text => exact blanked_eq_of_compileText h hc hd
  | number => exact blanked_eq_of_compileNumber h hc hd
  | date => exact blanked_eq_of_compileDate h hc hd

end LeafFilter

/-! ## Trees -/

namespace FilterNode

section

variable {p : ColumnPath} {label : String}

mutual

/-- **The condition of a tree** is the same up to values if the trees are the same up to texts. -/
theorem blanked_eq_of_compile {c d : Condition} : ∀ n m : FilterNode, n.blanked = m.blanked →
    n.compile p label = .ok c → m.compile p label = .ok d → c.blanked = d.blanked
  | .leaf f, .leaf g, h, hc, hd => by
    rw [compile] at hc hd
    rw [blanked, blanked, leaf.injEq] at h
    exact LeafFilter.blanked_eq_of_compile h hc hd
  | .leaf _, .group _ _, h, _, _ => by rw [blanked, blanked] at h; cases h
  | .group _ _, .leaf _, h, _, _ => by rw [blanked, blanked] at h; cases h
  | .group operator ns, .group operator' ms, h, hc, hd => by
    rw [blanked, blanked, group.injEq] at h
    obtain ⟨rfl, h⟩ := h
    rw [compile] at hc hd
    split at hc
    · cases hc
    · next junction hjunction =>
      rw [hjunction] at hd
      exact blanked_eq_of_compileInto rfl ns ms h hc hd

/-- Trees put into a group that are the same up to texts, one by one. -/
theorem blanked_eq_of_compileInto {group group' c d : Condition}
    (hgroup : group.blanked = group'.blanked) : ∀ ns ms : List FilterNode,
    blankedAll ns = blankedAll ms → compileInto p label group ns = .ok c →
    compileInto p label group' ms = .ok d → c.blanked = d.blanked
  | [], [], _, hc, hd => by
    rw [compileInto, Except.ok.injEq] at hc hd
    rw [← hc, ← hd, hgroup]
  | [], _ :: _, h, _, _ => by rw [blankedAll, blankedAll] at h; cases h
  | _ :: _, [], h, _, _ => by rw [blankedAll, blankedAll] at h; cases h
  | n :: ns, m :: ms, h, hc, hd => by
    rw [blankedAll, blankedAll, List.cons.injEq] at h
    rw [compileInto] at hc hd
    split at hc
    · cases hc
    · next cn hn =>
      split at hd
      · cases hd
      · next cm hm =>
        have hnode : cn.blanked = cm.blanked := blanked_eq_of_compile n m h.1 hn hm
        refine blanked_eq_of_compileInto ?_ ns ms h.2 hc hd
        rw [Condition.blanked_add, Condition.blanked_add, hgroup, hnode]

end

end

/-- Whether a tree selects missing values does not depend on texts. -/
lemma selectsNull_blanked (n : FilterNode) : n.blanked.selectsNull = n.selectsNull := by
  cases n with
  | group => rfl
  | leaf f =>
    rw [blanked, selectsNull, selectsNull, f.selectsNull_blanked]
    rfl

end FilterNode

/-! ## Conditions on the subject -/

/-- What joins the table of a hop has no values. -/
lemma Hop.blanked_correlation (h : Hop) (parent : String) :
    (h.correlation parent).blanked = h.correlation parent := by
  rw [correlation, Condition.blanked_addExpr?, Condition.blanked_addExpr, live?]
  cases h.softDelete <;> rfl

/-- A condition can be blanked before or after existence tests are put around it. -/
lemma blanked_existsAlong (hops : List Hop) (parent : String) (inner : Option Condition) :
    (existsAlong parent inner hops).map Condition.blanked =
      existsAlong parent (inner.map Condition.blanked) hops := by
  induction hops generalizing parent with
  | nil => rfl
  | cons h rest ih =>
    rw [existsAlong, existsAlong, ← ih, Option.map_some, Condition.blanked_ofExpr, Hop.existsExpr,
      Hop.existsExpr, Expr.blanked, Condition.blanked_toExpr, Condition.blanked_add?,
      h.blanked_correlation]

/-- A condition can be blanked before or after the relations of a path are followed to it. -/
lemma ColumnPath.blanked_related (p : ColumnPath) (base : String) (c : Condition) :
    (p.related base c).blanked = p.related base c.blanked := by
  have halong := blanked_existsAlong p.hops base (some c)
  rw [Option.map_some] at halong
  rw [related, related, ← halong]
  cases existsAlong base (some c) p.hops <;> rfl

/-- **The condition on the subject** is the same up to values if the trees are the same up to
texts.

**Proof sketch.** The relations of the path are followed without any value (`blanked_related`). The
condition that the chain breaks off is the same for both trees, and both have it or neither. -/
theorem FilterNode.blanked_eq_of_entry {n m : FilterNode} {p : ColumnPath} {base : String}
    {c d : Condition} (h : n.blanked = m.blanked) (hc : n.entry p base = .ok c)
    (hd : m.entry p base = .ok d) : c.blanked = d.blanked := by
  obtain ⟨predicate, hpredicate, hc⟩ := bind_eq_ok.mp hc
  obtain ⟨predicate', hpredicate', hd⟩ := bind_eq_ok.mp hd
  have hrelated : (p.related base predicate).blanked = (p.related base predicate').blanked := by
    rw [p.blanked_related, p.blanked_related, blanked_eq_of_compile n m h hpredicate hpredicate']
  rw [← pure_eq_ok.mp hc, ← pure_eq_ok.mp hd, eq_of_blanked selectsNull h selectsNull_blanked]
  split
  · rw [Condition.blanked_addExpr, Condition.blanked_addExpr, Condition.blanked_add,
      Condition.blanked_add, hrelated]
  · exact hrelated

end DataGrid
