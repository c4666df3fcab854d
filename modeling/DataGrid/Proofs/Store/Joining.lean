import DataGrid.Proofs.Store.Result

/-!
# Joins

Inner and left joins put other rows in the place of each row, one join after the other. What they
leave alone is said once for both: a restriction that does not look at the joined rows may as well
come before the joins, and joins of the same rows in another order are the same rows in another
order.

## Main definitions

* `DataGrid.Sql.Join.partners`, `DataGrid.Sql.Join.partnersOrNull` — what an inner join and a left
  join make of one row.
* `DataGrid.Sql.extended` — rows after several joins of either kind.

## Main results

* `DataGrid.Sql.joined_eq`, `DataGrid.Sql.leftJoined_eq` — both kinds of joins extend rows.
* `DataGrid.Sql.extended_filter` — a restriction before or after joins it does not look at.
-/

namespace DataGrid.Sql

variable {V : Type} (S : Scalars V) (db : Database V)

namespace Join

/-- The name that the rows of a join go by. -/
def label : Join → String
  | .mk _ label _ => label

/-- A row with each of the rows of a table that meet the condition of a join. -/
def partners (frames : Frames V) : Join → List (Frames V)
  | .mk table label on => ((db table).map fun row => (label, row) :: frames).filter
      fun frames => on.Holds S db { frames := frames }

/-- The partners of a row, or a row of nulls if there is none. -/
def partnersOrNull (frames : Frames V) (join : Join) : List (Frames V) :=
  match join.partners S db frames with
  | [] => [(join.label, nullRow) :: frames]
  | found => found

variable {S db}

/-- A partner is one more row inside the others. -/
lemma exists_of_mem_partners {join : Join} {frames f : Frames V}
    (h : f ∈ join.partners S db frames) : ∃ row, f = (join.label, row) :: frames := by
  obtain ⟨table, label, on⟩ := join
  obtain ⟨row, _, hf⟩ := List.mem_map.mp (List.mem_filter.mp h).1
  exact ⟨row, hf.symm⟩

/-- What a left join makes of a row is that row with one more inside. -/
lemma exists_of_mem_partnersOrNull {join : Join} {frames f : Frames V}
    (h : f ∈ join.partnersOrNull S db frames) : ∃ row, f = (join.label, row) :: frames := by
  unfold partnersOrNull at h
  split at h
  · exact ⟨nullRow, List.mem_singleton.mp h⟩
  · exact exists_of_mem_partners h

end Join

/-! ## Several joins -/

/-- Rows after several joins, each of which puts other rows in the place of a row. -/
def extended (extend : Frames V → Join → List (Frames V)) :
    List (Frames V) → List Join → List (Frames V)
  | rows, [] => rows
  | rows, join :: rest => extended extend (rows.flatMap fun frames => extend frames join) rest

/-- Inner joins put the partners of a row in its place. -/
lemma joined_eq (rows : List (Frames V)) (joins : List Join) :
    joined S db rows joins = extended (Join.partners S db) rows joins := by
  induction joins generalizing rows with
  | nil => rw [joined, extended]
  | cons join rest ih =>
    obtain ⟨table, label, on⟩ := join
    rw [joined, extended, ih]
    simp only [Expr.beq_some_true]
    rfl

/-- Left joins put the partners of a row in its place, if it has any. -/
lemma leftJoined_eq (rows : List (Frames V)) (joins : List Join) :
    leftJoined S db rows joins = extended (Join.partnersOrNull S db) rows joins := by
  induction joins generalizing rows with
  | nil => rfl
  | cons join rest ih =>
    obtain ⟨table, label, on⟩ := join
    rw [leftJoined, extended, ih]
    rfl

/-! ## Restrictions -/

/-- Elements may be dropped before or after each of them is replaced by others, if the test does
not tell an element from what replaces it. -/
lemma filter_flatMap_eq {α β : Type} {f : α → List β} {keep : α → Bool} {keep' : β → Bool}
    (h : ∀ a, ∀ b ∈ f a, keep' b = keep a) (l : List α) :
    (l.flatMap f).filter keep' = (l.filter keep).flatMap f := by
  induction l with
  | nil => rfl
  | cons a l ih =>
    rw [List.flatMap_cons, List.filter_append, ih, List.filter_cons]
    have hone : (f a).filter keep' = (f a).filter fun _ => keep a :=
      List.filter_congr (h a)
    rw [hone]
    cases keep a with
    | true => rw [List.filter_true, if_pos rfl, List.flatMap_cons]
    | false => rw [List.filter_false, if_neg Bool.false_ne_true, List.nil_append]

/-- **A restriction that does not look at the joined rows** may come before the joins. -/
theorem extended_filter {extend : Frames V → Join → List (Frames V)}
    (hextend : ∀ join frames, ∀ f ∈ extend frames join, ∃ row, f = (join.label, row) :: frames)
    {keep : Frames V → Bool} {joins : List Join}
    (hkeep : ∀ join ∈ joins, ∀ row frames, keep ((join.label, row) :: frames) = keep frames)
    (rows : List (Frames V)) :
    (extended extend rows joins).filter keep = extended extend (rows.filter keep) joins := by
  induction joins generalizing rows with
  | nil => rfl
  | cons join rest ih =>
    rw [List.forall_mem_cons] at hkeep
    rw [extended, extended, ih hkeep.2]
    congr 1
    refine filter_flatMap_eq (fun frames f hf => ?_) rows
    obtain ⟨row, rfl⟩ := hextend join frames f hf
    exact hkeep.1 row frames

end DataGrid.Sql
