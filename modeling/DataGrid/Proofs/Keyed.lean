import DataGrid.Keyed
import Mathlib.Data.List.Forall2
import Mathlib.Data.List.Pairwise
import Mathlib.Data.List.Perm.Basic
import Mathlib.Data.String.Basic
import Mathlib.Tactic.Lemma

/-!
# Look-up in keyed lists

Whatever is put into a keyed list one by one, the keys of the outcome ascend. A list whose keys
ascend is known by what is found under each key, and putting its pairs in one by one gives the same
list again.

## Main definitions

* `DataGrid.Keyed.IsTagTable` — the values of a type under their tags.
* `DataGrid.Keyed.Ascending` — the keys ascend.

## Main results

* `DataGrid.Keyed.IsTagTable.find?_eq_some` — what is read off a tag.
* `DataGrid.Keyed.ascending_ofList` — pairs put in one by one have ascending keys.
* `DataGrid.Keyed.ofList_eq_self` — a list with ascending keys comes out as it was.
* `DataGrid.Keyed.Ascending.ext` — lists with ascending keys are equal if the same is found in them.
-/

namespace DataGrid.Keyed

variable {α β : Type} {key : String} {value : α} {pairs : List (String × α)}

/-! ## Look-up -/

/-- The value found under a key stands in the list. -/
lemma mem_of_find? (h : find? key pairs = some value) : (key, value) ∈ pairs := by
  induction pairs with
  | nil => simp at h
  | cons p rest ih =>
    obtain ⟨k, v⟩ := p
    by_cases hk : k = key
    · subst hk
      rw [find?_cons_self, Option.some.injEq] at h
      simp [h]
    · rw [find?, if_neg hk] at h
      exact List.mem_cons_of_mem _ (ih h)

/-- A key of its own leads to the value that stands beside it. -/
lemma find?_of_mem (hkeys : (keys pairs).Nodup) (h : (key, value) ∈ pairs) :
    find? key pairs = some value := by
  induction pairs with
  | nil => simp at h
  | cons p rest ih =>
    obtain ⟨k, v⟩ := p
    obtain ⟨hfresh, hrest⟩ := List.nodup_cons.mp hkeys
    rw [List.mem_cons, Prod.mk.injEq] at h
    rcases h with ⟨rfl, rfl⟩ | h
    · exact find?_cons_self key value rest
    · have hmem : key ∈ keys rest := List.mem_map_of_mem h
      have hne : k ≠ key := by
        intro hsame
        exact hfresh (hsame ▸ hmem)
      rw [find?, if_neg hne]
      exact ih hrest h

/-- Nothing is found under a key just when it does not occur. -/
lemma find?_eq_none_iff : find? key pairs = none ↔ key ∉ keys pairs := by
  induction pairs with
  | nil => simp [keys]
  | cons p rest ih =>
    obtain ⟨k, v⟩ := p
    rw [find?, keys, List.map_cons, List.mem_cons, not_or]
    by_cases hk : k = key
    · simp [hk]
    · rw [if_neg hk, ih]
      simp [keys, Ne.symm hk]

/-! ## Tables of tags -/

/-- The values of a type under their tags, and nothing else. -/
structure IsTagTable (table : List (String × α)) (tag : α → String) : Prop where
  find?_tag : ∀ a, find? (tag a) table = some a
  key_eq : ∀ entry ∈ table, entry.1 = tag entry.2

namespace IsTagTable

variable {table : List (String × α)} {tag : α → String} (h : IsTagTable table tag)
include h

/-- Every value is read off its own tag, and nothing is read off other texts. -/
lemma find?_eq_some {a : α} : find? key table = some a ↔ key = tag a := by
  constructor
  · intro hfound
    exact h.key_eq _ (mem_of_find? hfound)
  · rintro rfl
    exact h.find?_tag a

/-- Different values have different tags. -/
lemma tag_inj {a b : α} (hsame : tag a = tag b) : a = b :=
  Option.some.inj ((h.find?_tag a).symm.trans (h.find?_eq_some.mpr hsame))

end IsTagTable

/-! ## Changed values -/

/-- Other values under the same keys. -/
lemma find?_map (f : α → β) (pairs : List (String × α)) :
    find? key (pairs.map fun p => (p.1, f p.2)) = (find? key pairs).map f := by
  induction pairs with
  | nil => rfl
  | cons p rest ih =>
    rw [List.map_cons, find?, find?, ih]
    split <;> rfl

/-- What is found in two lists is found in the first one, or else in the second one. -/
lemma find?_append (key : String) (front back : List (String × α)) :
    find? key (front ++ back) = (find? key front).or (find? key back) := by
  induction front with
  | nil => rfl
  | cons p rest ih =>
    rw [List.cons_append, find?, find?, ih]
    split <;> rfl

/-- A pair does not matter to what is found under another key. -/
lemma find?_append_cons_of_ne {other : String} {front back : List (String × α)} (h : key ≠ other) :
    find? other (front ++ (key, value) :: back) = find? other (front ++ back) := by
  rw [find?_append, find?_append, find?, if_neg h]

/-- A pair that is put in under a new key joins the others. -/
lemma mem_insert (hfresh : ∀ pair ∈ pairs, pair.1 ≠ key) {pair : String × α} :
    pair ∈ insert key value pairs ↔ pair = (key, value) ∨ pair ∈ pairs := by
  induction pairs with
  | nil => simp [insert]
  | cons first rest ih =>
    obtain ⟨k, v⟩ := first
    rw [List.forall_mem_cons] at hfresh
    rw [insert, if_neg hfresh.1]
    split
    · rw [List.mem_cons, ih hfresh.2, List.mem_cons]
      exact or_left_comm
    · rw [List.mem_cons]

/-! ## Ascending keys -/

/-- The keys ascend, so that none of them occurs twice. -/
def Ascending (pairs : List (String × α)) : Prop := pairs.Pairwise fun p q => p.1 < q.1

/-- All pairs after an insertion are the inserted one or were there before. -/
lemma mem_of_mem_insert {pair : String × α} (h : pair ∈ insert key value pairs) :
    pair = (key, value) ∨ pair ∈ pairs := by
  induction pairs with
  | nil => simpa [insert] using h
  | cons first rest ih =>
    obtain ⟨k, v⟩ := first
    rw [insert] at h
    split_ifs at h with hsame hless
    · rw [List.mem_cons] at h
      exact h.imp_right (List.mem_cons_of_mem _)
    · rw [List.mem_cons] at h
      rcases h with rfl | h
      · exact .inr List.mem_cons_self
      · exact (ih h).imp_right (List.mem_cons_of_mem _)
    · rw [List.mem_cons] at h
      exact h

/-- A pair goes to the place of its key. -/
lemma Ascending.insert (h : Ascending pairs) (key : String) (value : α) :
    Ascending (Keyed.insert key value pairs) := by
  induction pairs with
  | nil => exact List.pairwise_singleton _ _
  | cons first rest ih =>
    obtain ⟨k, v⟩ := first
    obtain ⟨hfirst, hrest⟩ := List.pairwise_cons.mp h
    rw [Keyed.insert]
    split_ifs with hsame hless
    · subst hsame
      exact List.pairwise_cons.mpr ⟨hfirst, hrest⟩
    · refine List.pairwise_cons.mpr ⟨?_, ih hrest⟩
      intro pair hpair
      rcases mem_of_mem_insert hpair with rfl | hpair
      · exact hless
      · exact hfirst pair hpair
    · have hgreater : key < k := lt_of_le_of_ne (not_lt.mp hless) (Ne.symm hsame)
      refine List.pairwise_cons.mpr ⟨?_, h⟩
      intro pair hpair
      rcases List.mem_cons.mp hpair with rfl | hpair
      · exact hgreater
      · exact hgreater.trans (hfirst pair hpair)

/-- Pairs put in one by one have ascending keys. -/
theorem ascending_ofList (pairs : List (String × α)) : Ascending (ofList pairs) := by
  have hfold : ∀ (pairs sorted : List (String × α)), Ascending sorted →
      Ascending (pairs.foldl (fun sorted p => Keyed.insert p.1 p.2 sorted) sorted) := by
    intro pairs
    induction pairs with
    | nil => exact fun _ h => h
    | cons p rest ih =>
      intro sorted h
      exact ih _ (h.insert p.1 p.2)
  exact hfold pairs [] List.Pairwise.nil

/-- All pairs that come out were put in. -/
lemma mem_of_mem_ofList {pair : String × α} (h : pair ∈ ofList pairs) : pair ∈ pairs := by
  have hfold : ∀ pairs sorted : List (String × α),
      pair ∈ pairs.foldl (fun sorted p => Keyed.insert p.1 p.2 sorted) sorted →
        pair ∈ sorted ∨ pair ∈ pairs := by
    intro pairs
    induction pairs with
    | nil => exact fun _ h => .inl h
    | cons p rest ih =>
      intro sorted h
      rcases ih _ h with hinserted | hrest
      · rcases mem_of_mem_insert hinserted with rfl | hsorted
        · exact .inr List.mem_cons_self
        · exact .inl hsorted
      · exact .inr (List.mem_cons_of_mem _ hrest)
  rcases hfold pairs [] h with hnil | hpairs
  · cases hnil
  · exact hpairs

/-- Ascending keys are different from each other. -/
lemma Ascending.nodup_keys (h : Ascending pairs) : (keys pairs).Nodup := by
  refine List.pairwise_map.mpr (h.imp ?_)
  intro p q hpq
  exact ne_of_lt hpq

/-- A pair with a greater key than all others goes to the end. -/
lemma insert_of_forall_lt (h : ∀ p ∈ pairs, p.1 < key) :
    Keyed.insert key value pairs = pairs ++ [(key, value)] := by
  induction pairs with
  | nil => rfl
  | cons first rest ih =>
    obtain ⟨k, v⟩ := first
    rw [List.forall_mem_cons] at h
    rw [Keyed.insert, if_neg (ne_of_lt h.1), if_pos h.1, ih h.2, List.cons_append]

/-- **A list with ascending keys** comes out as it was, when its pairs are put in one by one. -/
theorem ofList_eq_self (h : Ascending pairs) : ofList pairs = pairs := by
  have hfold : ∀ back front : List (String × α), Ascending (front ++ back) →
      back.foldl (fun sorted p => Keyed.insert p.1 p.2 sorted) front = front ++ back := by
    intro back
    induction back with
    | nil => simp
    | cons p rest ih =>
      intro front hall
      have hless : ∀ q ∈ front, q.1 < p.1 := by
        intro q hq
        exact (List.pairwise_append.mp hall).2.2 q hq p List.mem_cons_self
      rw [List.foldl_cons, insert_of_forall_lt hless, ih, List.append_assoc, List.singleton_append]
      rwa [List.append_assoc, List.singleton_append]
  exact hfold pairs [] h

section

variable {R : α → β → Prop} {value' : β} {pairs' : List (String × β)}

/-- Related values under the same keys stay in step when related values are put in. -/
lemma forall₂_insert (hvalue : R value value')
    (h : List.Forall₂ (fun p p' => p.1 = p'.1 ∧ R p.2 p'.2) pairs pairs') :
    List.Forall₂ (fun p p' => p.1 = p'.1 ∧ R p.2 p'.2) (insert key value pairs)
      (insert key value' pairs') := by
  induction h with
  | nil => exact List.Forall₂.cons ⟨rfl, hvalue⟩ List.Forall₂.nil
  | @cons first first' rest rest' hfirst hrest ih =>
    obtain ⟨k, v⟩ := first
    obtain ⟨k', v'⟩ := first'
    obtain ⟨rfl, hv⟩ := hfirst
    rw [insert, insert]
    split_ifs
    · exact List.Forall₂.cons ⟨rfl, hvalue⟩ hrest
    · exact List.Forall₂.cons ⟨rfl, hv⟩ ih
    · exact List.Forall₂.cons ⟨rfl, hvalue⟩ (List.Forall₂.cons ⟨rfl, hv⟩ hrest)

/-- Related values under the same keys stay in step when the pairs are put in one by one. -/
lemma forall₂_ofList (h : List.Forall₂ (fun p p' => p.1 = p'.1 ∧ R p.2 p'.2) pairs pairs') :
    List.Forall₂ (fun p p' => p.1 = p'.1 ∧ R p.2 p'.2) (ofList pairs) (ofList pairs') := by
  refine List.rel_foldl ?_ List.Forall₂.nil h
  rintro sorted sorted' hsorted ⟨k, v⟩ ⟨k', v'⟩ ⟨rfl, hv⟩
  exact forall₂_insert hv hsorted

end

/-- Values may be changed before or after pairs are put in. -/
lemma map_ofList (f : α → β) (pairs : List (String × α)) :
    (ofList pairs).map (fun p => (p.1, f p.2)) = ofList (pairs.map fun p => (p.1, f p.2)) := by
  have hpairs : List.Forall₂ (fun p p' => p.1 = p'.1 ∧ f p.2 = p'.2) pairs
      (pairs.map fun p => (p.1, f p.2)) := by
    rw [List.forall₂_map_right_iff, List.forall₂_same]
    exact fun _ _ => ⟨rfl, rfl⟩
  rw [← List.forall₂_eq_eq_eq, List.forall₂_map_left_iff]
  refine (forall₂_ofList (R := fun a b => f a = b) hpairs).imp ?_
  intro p p' hp
  exact Prod.ext hp.1 hp.2

/-- Under different keys the same is found before and after pairs are put in. -/
lemma find?_ofList (h : (keys pairs).Nodup) : find? key (ofList pairs) = find? key pairs := by
  have hfold : ∀ pairs sorted : List (String × α), (keys pairs).Nodup →
      find? key (pairs.foldl (fun sorted p => Keyed.insert p.1 p.2 sorted) sorted) =
        (find? key pairs).or (find? key sorted) := by
    intro pairs
    induction pairs with
    | nil => simp
    | cons p rest ih =>
      intro sorted hkeys
      obtain ⟨k, v⟩ := p
      obtain ⟨hfresh, hrest⟩ := List.nodup_cons.mp hkeys
      rw [List.foldl_cons, ih _ hrest, find?_insert, find?]
      by_cases hk : k = key
      · subst hk
        rw [find?_eq_none_iff.mpr hfresh, if_pos rfl, if_pos rfl]
        rfl
      · rw [if_neg hk, if_neg hk]
  have hall := hfold pairs [] h
  rwa [find?_nil, Option.or_none] at hall

/-- **Lists with ascending keys are equal** if the same is found under every key. -/
theorem Ascending.ext {pairs' : List (String × α)} (h : Ascending pairs) (h' : Ascending pairs')
    (hfind : ∀ key, find? key pairs = find? key pairs') : pairs = pairs' := by
  have hmem : ∀ p, p ∈ pairs ↔ p ∈ pairs' := by
    intro p
    constructor
    · intro hp
      exact mem_of_find? ((hfind p.1).symm.trans (find?_of_mem h.nodup_keys hp))
    · intro hp
      exact mem_of_find? ((hfind p.1).trans (find?_of_mem h'.nodup_keys hp))
  have hnodup : pairs.Nodup := h.imp fun hpq heq => (ne_of_lt hpq) (congrArg Prod.fst heq)
  have hnodup' : pairs'.Nodup := h'.imp fun hpq heq => (ne_of_lt hpq) (congrArg Prod.fst heq)
  have hperm : pairs.Perm pairs' := (List.perm_ext_iff_of_nodup hnodup hnodup').mpr hmem
  refine hperm.eq_of_pairwise ?_ h h'
  intro p q _ _ hpq hqp
  exact absurd (hpq.trans hqp) (lt_irrefl _)

end DataGrid.Keyed
