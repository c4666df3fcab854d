import DataGrid.Path.Chain
import DataGrid.Proofs.Store.Joining

/-!
# The names along a path

The table of a hop goes by the name it is reached from, with the name of the relation put behind it.
The names along a path get longer, so no table that is joined takes the name of an earlier one.

## Main definitions

* `DataGrid.Hop.join` — the join of one hop.

## Main results

* `DataGrid.length_lt_of_mem_joinsAlong` — the names of joined tables are longer than the name they
  start from.
-/

namespace DataGrid

open Sql

/-- The name of a joined table is longer than the name of its parent. -/
lemma Hop.length_lt_label (h : Hop) (parent : String) :
    parent.length < (h.label parent).length := by
  rw [Hop.label, String.length_append, String.length_append]
  have hmark : "__".length = 2 := rfl
  omega

/-- The table of a hop, joined to its parent. -/
def Hop.join (h : Hop) (parent : String) : Join :=
  .mk h.table (h.label parent) (h.correlation parent).toExpr

/-- The first join along hops is that of the first hop. -/
lemma joinsAlong_cons (h : Hop) (rest : List Hop) (parent : String) :
    joinsAlong parent (h :: rest) = h.join parent :: joinsAlong (h.label parent) rest := rfl

/-- The names of all tables joined along hops are longer than the name they start from.

**Proof sketch.** Induction on the hops: each one starts from a longer name than the one before. -/
theorem length_lt_of_mem_joinsAlong {hops : List Hop} {parent : String} {join : Join}
    (h : join ∈ joinsAlong parent hops) : parent.length < join.label.length := by
  induction hops generalizing parent with
  | nil => simp [joinsAlong] at h
  | cons hop rest ih =>
    have hfirst := hop.length_lt_label parent
    rw [joinsAlong_cons, List.mem_cons] at h
    rcases h with rfl | h
    · exact hfirst
    · have hrest := ih h
      omega

end DataGrid
