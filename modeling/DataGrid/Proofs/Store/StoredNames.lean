import DataGrid.Proofs.Store.Scoping

/-!
# Names as the store reads them

The store looks at the first 63 octets of a name and cuts off the rest. Names that are the same up to
there are one name, and a reference to one of them may be read from the row of another.

## Main definitions

* `DataGrid.Sql.storedName` — a name as the store reads it.
* `DataGrid.Sql.Reference.IsKept` — the store takes a column from the row that is meant.

## Main results

* `DataGrid.Sql.storedName_eq_self` — short names are read as they are.
* `DataGrid.Sql.storedName_append_eq_iff` — when what stands behind a name is not seen.
* `DataGrid.Sql.Reference.isKept_of_injective` — names that stay different keep references.

## Implementation notes

Rows of one table may go by two names, so it is not enough to ask which table a name leads to.
References are compared by the place of their name among those in scope.
-/

namespace DataGrid

namespace Sql

/-! ## Cutting names -/

/-- The number of octets of some characters. -/
def octets : List Char → ℕ
  | [] => 0
  | c :: cs => c.utf8Size + octets cs

/-- The characters from the front that fit into a number of octets. -/
def cut : ℕ → List Char → List Char
  | _, [] => []
  | room, c :: cs => if c.utf8Size ≤ room then c :: cut (room - c.utf8Size) cs else []

/-- The number of octets up to which the store looks at a name. -/
def nameLimit : ℕ := 63

/-- A name as the store reads it. -/
def storedName (name : String) : String := String.ofList (cut nameLimit name.toList)

/-- The octets of a text are those of its UTF-8 form. -/
lemma octets_toList (s : String) : octets s.toList = s.utf8ByteSize := by
  have hlist : ∀ cs : List Char, octets cs = (String.ofList cs).utf8ByteSize := by
    intro cs
    induction cs with
    | nil => rfl
    | cons c cs ih =>
      rw [String.ofList_cons, String.utf8ByteSize_append, String.utf8ByteSize_singleton, ← ih]
      rfl
  rw [hlist, String.ofList_toList]

/-- What fits is not cut off, and what comes behind it gets the rest of the room. -/
lemma cut_append_of_le {room : ℕ} {front : List Char} (h : octets front ≤ room)
    (back : List Char) : cut room (front ++ back) = front ++ cut (room - octets front) back := by
  induction front generalizing room with
  | nil => rfl
  | cons c cs ih =>
    have hsum : octets (c :: cs) = c.utf8Size + octets cs := rfl
    rw [hsum] at h ⊢
    rw [List.cons_append, cut, if_pos (by omega), ih (by omega), List.cons_append]
    congr 3
    omega

/-- Behind what fills the room nothing counts. -/
lemma cut_append_of_ge {room : ℕ} {front : List Char} (h : room ≤ octets front)
    (back : List Char) : cut room (front ++ back) = cut room front := by
  induction front generalizing room with
  | nil =>
    obtain rfl : room = 0 := Nat.le_zero.mp h
    cases back with
    | nil => rfl
    | cons c cs =>
      have hsize := c.utf8Size_pos
      exact if_neg (by omega)
  | cons c cs ih =>
    have hsum : octets (c :: cs) = c.utf8Size + octets cs := rfl
    rw [hsum] at h
    rw [List.cons_append, cut, cut]
    split
    · rw [ih (by omega)]
    · rfl

/-- A name that fits is read as it is. -/
lemma storedName_eq_self {name : String} (h : name.utf8ByteSize ≤ nameLimit) :
    storedName name = name := by
  have hwhole := cut_append_of_le (Nat.le_trans (Nat.le_of_eq (octets_toList name)) h) []
  rw [List.append_nil, cut, List.append_nil] at hwhole
  rw [storedName, hwhole, String.ofList_toList]

/-- Underscores behind a name are seen exactly if the name leaves room for them. -/
lemma storedName_append_eq_iff (name back : String) :
    storedName (name ++ "__" ++ back) = storedName name ↔ nameLimit ≤ name.utf8ByteSize := by
  have hmarks : (name ++ "__" ++ back).toList = name.toList ++ '_' :: '_' :: back.toList := by
    rw [String.toList_append, String.toList_append, List.append_assoc]
    rfl
  rw [storedName, storedName, hmarks, String.ofList_inj, ← octets_toList]
  constructor
  · intro hsame
    by_contra hroom
    have hwhole := cut_append_of_le (Nat.le_of_not_le hroom) []
    rw [List.append_nil, cut, List.append_nil] at hwhole
    have hmark : '_'.utf8Size ≤ nameLimit - octets name.toList := by
      change 1 ≤ nameLimit - octets name.toList
      omega
    rw [cut_append_of_le (Nat.le_of_not_le hroom), hwhole, cut, if_pos hmark] at hsame
    exact List.cons_ne_nil _ _ (List.append_right_eq_self.mp hsame)
  · exact fun hfull => cut_append_of_ge hfull _

/-! ## References as the store reads them -/

namespace Reference

/-- The place of the row that a reference reads, among the rows in scope, the innermost first. -/
def place (ref : Reference) : ℕ := (ref.scope.map Prod.fst).idxOf ref.label

/-- A reference as the store reads it. The names of tables and columns themselves are short. -/
def stored (ref : Reference) : Reference where
  label := storedName ref.label
  column := ref.column
  scope := ref.scope.map fun b => (storedName b.1, b.2)

/-- The store takes the column from the row that is meant. -/
def IsKept (ref : Reference) : Prop := ref.stored.place = ref.place

/-- Names that stay different lead to the same rows. -/
lemma isKept_of_injective {names : List String} {ref : Reference}
    (hnames : ∀ a ∈ names, ∀ b ∈ names, storedName a = storedName b → a = b)
    (hlabel : ref.label ∈ names) (hscope : ∀ b ∈ ref.scope, b.1 ∈ names) : ref.IsKept := by
  obtain ⟨label, column, scope⟩ := ref
  unfold IsKept place stored
  dsimp only at hlabel hscope ⊢
  induction scope with
  | nil => rfl
  | cons binding rest ih =>
    rw [List.forall_mem_cons] at hscope
    have hsame : storedName binding.1 = storedName label ↔ binding.1 = label :=
      ⟨hnames _ hscope.1 _ hlabel, congrArg storedName⟩
    simp only [List.map_cons, List.idxOf_cons, beq_eq_decide, hsame, ih hscope.2]

end Reference

end Sql

end DataGrid
