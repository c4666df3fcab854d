import DataGrid.Export.Column
import DataGrid.Proofs.Path.Chains
import DataGrid.Proofs.Schema.Addressable
import DataGrid.Proofs.Store.Documents

/-!
# Cells of exports

A column id addresses a value twice. An export walks from a row in JSON along the segments of the
column id; a statement takes the column that the column id is resolved to, and the members of the
document in it. Where no relation is crossed, both come to the same value: the names of an accepted
schema have no dots in them, so the segments of the column id are the column and the keys.

## Main definitions

* `DataGrid.Json.Reaches` — keys lead from a value through objects to another.

## Main results

* `DataGrid.ExportColumn.resolve_of_reaches`, `DataGrid.ExportColumn.resolve_of_not_reaches` — the
  cell of a column.
* `DataGrid.Sql.Scalars.Documents.memberAt_eq` — the text at the end of several keys.
* `DataGrid.Registry.cells_agree` — exports and statements.
-/

namespace DataGrid

open Sql

/-! ## Walking through objects -/

/-- Keys lead from a value to another one, each of them through a member of an object. -/
inductive Json.Reaches : Json → List String → Json → Prop
  | here (j : Json) : Reaches j [] j
  | step {members : List (String × Json)} {key : String} {keys : List String} {j v : Json} :
    Keyed.find? key members = some j → Reaches j keys v →
    Reaches (.object members) (key :: keys) v

namespace ExportColumn

variable {row v : Json} {keys : List String}

/-- An export walks along keys as far as they lead. -/
lemma follow?_eq_some_iff : follow? row keys = some v ↔ row.Reaches keys v := by
  constructor
  · intro h
    induction keys generalizing row with
    | nil =>
      obtain rfl := Option.some.inj h
      exact .here row
    | cons key rest ih =>
      obtain ⟨j, hj, hrest⟩ := Option.bind_eq_some_iff.mp h
      cases row with
      | object members => exact .step hj (ih hrest)
      | _ => cases hj
  · intro h
    induction h with
    | here => rfl
    | step hfound _ ih => exact Option.bind_eq_some_iff.mpr ⟨_, hfound, ih⟩

/-- A cell is what its column leads to. -/
lemma resolve_of_reaches {field header : String} (h : row.Reaches (Text.segments '.' field) v) :
    resolve { field, header } row = v := by
  simp [resolve, follow?_eq_some_iff.mpr h]

/-- It is null when the column leads nowhere. -/
lemma resolve_of_not_reaches {field header : String}
    (h : ¬∃ v, row.Reaches (Text.segments '.' field) v) :
    resolve { field, header } row = .null := by
  have hnone : follow? row (Text.segments '.' field) = none := by
    rw [Option.eq_none_iff_forall_ne_some]
    intro v hv
    exact h ⟨v, follow?_eq_some_iff.mp hv⟩
  simp [resolve, hnone]

end ExportColumn

/-! ## Members of documents -/

/-- **The text at the end of several keys** in a document.

**Proof sketch.** Induction over the keys. All but the last one lead from document to document.
Where there is no further member, the cell is null, and null has no members. -/
theorem Sql.Scalars.Documents.memberAt_eq {V : Type} {S : Scalars V} (D : S.Documents)
    {shown : Option Json} {cell : Option V} (h : D.Shows shown cell) {keys : List String}
    (hkeys : keys ≠ []) :
    S.memberAt cell keys =
      ((shown.bind fun j => ExportColumn.follow? j keys).bind (Json.content? D.print)).map
        S.ofText := by
  induction keys generalizing shown cell with
  | nil => exact absurd rfl hkeys
  | cons key rest ih =>
    cases h with
    | absent => exact S.memberAt_none (key :: rest)
    | null => exact S.memberAt_none (key :: rest)
    | document j =>
      cases rest with
      | nil =>
        simp only [Scalars.memberAt, Option.bind_some, D.member_text, ExportColumn.follow?]
        cases j.get? key <;> rfl
      | cons next rest =>
        have hmember : D.Shows (j.get? key) (S.member false key (D.document j)) := by
          rw [D.member_document]
          cases j.get? key with
          | none => exact .absent
          | some member => exact .document member
        exact ih hmember (List.cons_ne_nil next rest)

/-! ## Column ids -/

/-- Pieces that are joined without a dot between them are one piece. -/
lemma Text.eq_nil_of_dot_not_mem_join {first : String} {rest : List String}
    (h : '.' ∉ (join '.' (first :: rest)).toList) : rest = [] := by
  cases rest with
  | nil => rfl
  | cons next rest =>
    refine absurd ?_ h
    simp [join, joinChars]

namespace Registry

variable {r : Registry} {e : Entity} {id : String} {p : ColumnPath}

/-- **The segments of a column id** are the names of its relations, its column and its keys.

**Proof sketch.** The column is named by the first segment behind the relations, or by all of them
together. In the second case there is only one, since its name has no dots in it. -/
lemma IsAccepted.segments_of_resolve (haccepted : r.IsAccepted) (he : r.Has e)
    (hp : r.resolve e id = .ok p) :
    Text.segments '.' id = p.hops.map Hop.name ++ p.leaf :: p.keys := by
  obtain ⟨-, hops, reached, tail, c, keys, hfollows, hnames, rfl⟩ := resolve_eq_ok_iff.mp hp
  have hreached : r.Has reached := (hfollows.route.isDeclared he).1
  have hcolumns := (Entity.isSafe_of_check (haccepted.check_eq_ok hreached)).columns
  rw [hfollows.segments_eq]
  cases hnames with
  | document hfirst _ => rw [Entity.name_of_column? hfirst]
  | @whole _ first rest _ hwhole =>
    have hname : c.name = Text.join '.' (first :: rest) := Entity.name_of_column? hwhole
    have hdot := (hcolumns c (List.mem_of_find?_eq_some hwhole)).dot_not_mem
    obtain rfl := Text.eq_nil_of_dot_not_mem_join (hname ▸ hdot)
    rw [hname, Text.join_singleton]

/-- **Exports and statements agree.** A column id that crosses no relation leads, in every row, from
the column along the keys: the cell of the export is the value at the end, or null if there is none.
If there are keys, then the value of the statement in that row is the text of the cell, and null
exactly if the cell is. -/
theorem cells_agree (haccepted : r.IsAccepted) (he : r.Has e) (hp : r.resolve e id = .ok p)
    (hhops : p.hops = []) (header : String) (members : List (String × Json)) :
    let row : Json := .object members
    let cell : Json := ExportColumn.resolve { field := id, header := header } row
    (∀ v, row.Reaches (p.leaf :: p.keys) v → cell = v) ∧
      ((¬∃ v, row.Reaches (p.leaf :: p.keys) v) → cell = .null) ∧
      (p.isNested = true → ∀ (V : Type) (S : Scalars V) (D : S.Documents) (db : Database V)
        (env : Env V) (label : String) (cells : Row V), Keyed.find? label env.frames = some cells →
        D.Shows (row.get? p.leaf) (cells p.leaf) →
          (p.expr label).eval S db env = (cell.content? D.print).map S.ofText ∧
            ((p.expr label).eval S db env = none ↔ cell = .null)) := by
  intro row cell
  have hsegments : Text.segments '.' id = p.leaf :: p.keys := by
    rw [haccepted.segments_of_resolve he hp, hhops]
    rfl
  rw [← hsegments]
  refine ⟨fun v => ExportColumn.resolve_of_reaches, ExportColumn.resolve_of_not_reaches, ?_⟩
  intro hnested V S D db env label cells hframe hshows
  have hkeys : p.keys ≠ [] := by simpa [ColumnPath.isNested] using hnested
  have hcell : cell =
      ((row.get? p.leaf).bind fun j => ExportColumn.follow? j p.keys).getD .null := by
    show (ExportColumn.follow? row (Text.segments '.' id)).getD .null = _
    rw [hsegments]
    rfl
  have heval : (p.expr label).eval S db env = (cell.content? D.print).map S.ofText := by
    rw [p.eval_expr S db hframe, ColumnPath.value, D.memberAt_eq hshows hkeys, hcell]
    cases (row.get? p.leaf).bind fun j => ExportColumn.follow? j p.keys <;> rfl
  refine ⟨heval, ?_⟩
  rw [heval, Option.map_eq_none_iff, Json.content?_eq_none]

/-- The mood of a flamingo, from its row and in the store. -/
theorem cells_agree_mood :
    ∃ r p, Zoo.registry = .ok r ∧
      r.resolve Zoo.flamingos "custom_properties.nature.mood" = .ok p ∧
      let properties : Json := .object [("nature", .object [("mood", .string "calm")])]
      let cells : Row Stored := fun _ => some (.document properties)
      ExportColumn.resolve { field := "custom_properties.nature.mood", header := "Mood" }
          (.object [("custom_properties", properties)]) = .string "calm" ∧
        (p.expr "flamingos").eval Stored.scalars (fun _ => []) (.ofRow "flamingos" cells) =
          some (.constant (.string "calm")) := by
  obtain ⟨r, hr⟩ : ∃ r, Zoo.registry = .ok r := ⟨_, rfl⟩
  have haccepted : r.IsAccepted := isAccepted_of_ofEntities hr
  have he : r.Has Zoo.flamingos := by
    obtain rfl := Except.ok.inj hr
    exact ⟨"flamingos", rfl⟩
  have hp : r.resolve Zoo.flamingos "custom_properties.nature.mood" =
      .ok ⟨"custom_properties.nature.mood", [], "custom_properties", ["nature", "mood"],
        .json⟩ := by
    obtain rfl := Except.ok.inj hr
    rfl
  refine ⟨r, _, hr, hp, ?_⟩
  intro properties cells
  obtain ⟨hreached, -, hstored⟩ :=
    cells_agree haccepted he hp rfl "Mood" [("custom_properties", properties)]
  have hmood := hreached (.string "calm") (.step rfl (.step rfl (.step rfl (.here _))))
  refine ⟨hmood, ?_⟩
  have hshows : Stored.documents.Shows (some properties) (cells "custom_properties") :=
    .document properties
  have hvalue := (hstored rfl Stored Stored.scalars Stored.documents (fun _ => [])
    (.ofRow "flamingos" cells) "flamingos" cells rfl hshows).1
  rw [hvalue, hmood]
  rfl

end Registry

end DataGrid
