/-!
# Segments of a text

Cutting a text at a separator, joining the pieces again, and finding one text inside another.
Everything is defined on lists of characters, by recursion on the list.

## Main definitions

* `DataGrid.Text.splitChars`, `DataGrid.Text.segments` — the pieces between the separators.
* `DataGrid.Text.joinChars`, `DataGrid.Text.join` — the pieces with a separator between them.
* `DataGrid.Text.contains`, `DataGrid.Text.endsWith` — occurrence anywhere and at the end.

## Main results

* `DataGrid.Text.join_segments` — joining the segments of a text gives the text back.
* `DataGrid.Text.segments_join` — pieces without separators are the segments of what they join to.
* `DataGrid.Text.join_append_join` — pieces that were joined before may be joined with others.
-/

namespace DataGrid.Text

/-! ## Cutting and joining -/

/-- Put a character in front of the first piece. -/
def consHead (c : Char) : List (List Char) → List (List Char)
  | [] => [[c]]
  | piece :: pieces => (c :: piece) :: pieces

/-- The pieces between the separators; there is one more piece than there are separators. -/
def splitChars (sep : Char) : List Char → List (List Char)
  | [] => [[]]
  | c :: cs => if c = sep then [] :: splitChars sep cs else consHead c (splitChars sep cs)

/-- The pieces with a separator between neighbours. -/
def joinChars (sep : Char) : List (List Char) → List Char
  | [] => []
  | [piece] => piece
  | piece :: pieces => piece ++ sep :: joinChars sep pieces

/-- The segments of a text. -/
def segments (sep : Char) (s : String) : List String :=
  (splitChars sep s.toList).map String.ofList

/-- The segments joined with a separator. -/
def join (sep : Char) (pieces : List String) : String :=
  String.ofList (joinChars sep (pieces.map String.toList))

/-- There is always a piece. -/
theorem splitChars_ne_nil (sep : Char) (cs : List Char) : splitChars sep cs ≠ [] := by
  cases cs with
  | nil => simp [splitChars]
  | cons c cs =>
    unfold splitChars
    split
    · simp
    · cases splitChars sep cs <;> simp [consHead]

/-- An empty piece in front puts the separator first. -/
theorem joinChars_cons_nil (sep : Char) {pieces : List (List Char)} (h : pieces ≠ []) :
    joinChars sep ([] :: pieces) = sep :: joinChars sep pieces := by
  cases pieces with
  | nil => exact absurd rfl h
  | cons p ps => simp [joinChars]

/-- A character in front of the first piece comes first. -/
theorem joinChars_consHead (sep c : Char) {pieces : List (List Char)} (h : pieces ≠ []) :
    joinChars sep (consHead c pieces) = c :: joinChars sep pieces := by
  cases pieces with
  | nil => exact absurd rfl h
  | cons p ps => cases ps <;> simp [consHead, joinChars]

/-- What is split at a separator is joined by it again. -/
theorem joinChars_splitChars (sep : Char) (cs : List Char) :
    joinChars sep (splitChars sep cs) = cs := by
  induction cs with
  | nil => rfl
  | cons c cs ih =>
    have hne := splitChars_ne_nil sep cs
    unfold splitChars
    split
    · next hc => rw [joinChars_cons_nil sep hne, ih, hc]
    · rw [joinChars_consHead sep c hne, ih]

/-- Joining the segments of a text gives the text back. -/
theorem join_segments (sep : Char) (s : String) : join sep (segments sep s) = s := by
  have h : ((segments sep s).map String.toList) = splitChars sep s.toList := by
    unfold segments
    rw [List.map_map]
    exact List.map_id'' (fun cs => String.toList_ofList) _
  unfold join
  rw [h, joinChars_splitChars, String.ofList_toList]

/-- A piece without separators is the first piece of a text that goes on with a separator. -/
theorem splitChars_append_sep (sep : Char) {piece : List Char} (h : sep ∉ piece)
    (rest : List Char) : splitChars sep (piece ++ sep :: rest) = piece :: splitChars sep rest := by
  induction piece with
  | nil => rw [List.nil_append, splitChars, if_pos rfl]
  | cons c piece ih =>
    rw [List.mem_cons, not_or] at h
    rw [List.cons_append, splitChars, if_neg (Ne.symm h.1), ih h.2, consHead]

/-- A text without separators is a single piece. -/
theorem splitChars_of_not_mem (sep : Char) {piece : List Char} (h : sep ∉ piece) :
    splitChars sep piece = [piece] := by
  induction piece with
  | nil => rfl
  | cons c piece ih =>
    rw [List.mem_cons, not_or] at h
    rw [splitChars, if_neg (Ne.symm h.1), ih h.2, consHead]

/-- Pieces without separators come back when they were joined. -/
theorem splitChars_joinChars (sep : Char) {pieces : List (List Char)} (hne : pieces ≠ [])
    (h : ∀ piece ∈ pieces, sep ∉ piece) : splitChars sep (joinChars sep pieces) = pieces := by
  induction pieces with
  | nil => exact absurd rfl hne
  | cons piece pieces ih =>
    have hpiece := h piece List.mem_cons_self
    have hrest := fun q hq => h q (List.mem_cons_of_mem piece hq)
    cases pieces with
    | nil => exact splitChars_of_not_mem sep hpiece
    | cons next pieces =>
      rw [joinChars, splitChars_append_sep sep hpiece, ih (List.cons_ne_nil next pieces) hrest]
      exact List.cons_ne_nil next pieces

/-- Pieces without separators are the segments of what they join to. -/
theorem segments_join (sep : Char) {pieces : List String} (hne : pieces ≠ [])
    (h : ∀ piece ∈ pieces, sep ∉ piece.toList) : segments sep (join sep pieces) = pieces := by
  have hchars : ∀ piece ∈ pieces.map String.toList, sep ∉ piece := by
    intro piece hpiece
    obtain ⟨text, htext, rfl⟩ := List.mem_map.mp hpiece
    exact h text htext
  have hmap : pieces.map String.toList ≠ [] := by
    intro hnil
    exact hne (List.map_eq_nil_iff.mp hnil)
  rw [segments, join, String.toList_ofList, splitChars_joinChars sep hmap hchars, List.map_map]
  exact List.map_id'' (fun text => String.ofList_toList) pieces

/-- Characters of pieces that were joined before may be joined with those of others. -/
theorem joinChars_append_joinChars (sep : Char) (front : List (List Char))
    {back : List (List Char)} (h : back ≠ []) :
    joinChars sep (front ++ [joinChars sep back]) = joinChars sep (front ++ back) := by
  induction front with
  | nil => rfl
  | cons piece front ih =>
    rw [List.cons_append, List.cons_append, joinChars, joinChars, ih]
    · simp [h]
    · simp

/-- Pieces that were joined before may be joined with others. -/
theorem join_append_join (sep : Char) (front : List String) {back : List String} (h : back ≠ []) :
    join sep (front ++ [join sep back]) = join sep (front ++ back) := by
  have hback : back.map String.toList ≠ [] := by
    intro hnil
    exact h (List.map_eq_nil_iff.mp hnil)
  rw [join, join, join, List.map_append, List.map_append, List.map_singleton,
    String.toList_ofList, joinChars_append_joinChars sep _ hback]

/-- A single piece is joined to itself. -/
theorem join_singleton (sep : Char) (piece : String) : join sep [piece] = piece :=
  String.ofList_toList

/-! ## Occurrence -/

/-- Whether one list of characters occurs inside another. -/
def occursIn (part : List Char) : List Char → Bool
  | [] => part.isEmpty
  | c :: cs => part.isPrefixOf (c :: cs) || occursIn part cs

/-- Whether a text contains a fragment. -/
def contains (s fragment : String) : Bool := occursIn fragment.toList s.toList

/-- Whether a text ends with a fragment. -/
def endsWith (s fragment : String) : Bool := fragment.toList.isSuffixOf s.toList

end DataGrid.Text
