/-!
# Keyed lists

Lists of pairs with ascending keys, the form of every collection by name: an inserted pair goes to
the place of its key and replaces a pair of the same key. Keys are ordered by code points.

## Main definitions

* `DataGrid.Keyed.insert`, `DataGrid.Keyed.find?`, `DataGrid.Keyed.keys` — the operations.
* `DataGrid.Keyed.ofList` — the pairs inserted one by one, so that the last of equal keys stays.

## Main results

* `DataGrid.Keyed.find?_insert` — what is found after an insertion.
-/

namespace DataGrid.Keyed

variable {α : Type}

/-- Put a pair at the place of its key; a pair of the same key is replaced. -/
def insert (key : String) (value : α) : List (String × α) → List (String × α)
  | [] => [(key, value)]
  | (k, v) :: rest =>
    if k = key then (key, value) :: rest
    else if k < key then (k, v) :: insert key value rest
    else (key, value) :: (k, v) :: rest

/-- The value of the first pair with the given key. -/
def find? (key : String) : List (String × α) → Option α
  | [] => none
  | (k, v) :: rest => if k = key then some v else find? key rest

/-- The keys in order. -/
def keys (pairs : List (String × α)) : List String := pairs.map Prod.fst

/-- The pairs inserted one by one. -/
def ofList (pairs : List (String × α)) : List (String × α) :=
  pairs.foldl (fun sorted p => insert p.1 p.2 sorted) []

/-- Nothing is found among no pairs. -/
@[simp] theorem find?_nil (key : String) : find? key ([] : List (String × α)) = none := rfl

/-- The first pair is found under its own key. -/
theorem find?_cons_self (key : String) (value : α) (pairs : List (String × α)) :
    find? key ((key, value) :: pairs) = some value := by
  rw [find?, if_pos rfl]

/-- After an insertion the inserted value is found under its key, and the other keys are as they
were. -/
theorem find?_insert (key other : String) (value : α) (pairs : List (String × α)) :
    find? other (insert key value pairs) =
      if key = other then some value else find? other pairs := by
  induction pairs with
  | nil => simp [insert, find?]
  | cons p rest ih =>
    obtain ⟨k, v⟩ := p
    by_cases hk : k = key
    · subst hk
      by_cases ho : k = other <;> simp [insert, find?, ho]
    · by_cases hlt : k < key
      · by_cases ho : k = other
        · subst ho
          simp [insert, find?, hk, hlt, Ne.symm hk]
        · simp [insert, find?, hk, hlt, ho, ih]
      · by_cases ho : key = other
        · subst ho
          simp [insert, find?, hk, hlt]
        · simp [insert, find?, hk, hlt, ho]

end DataGrid.Keyed
