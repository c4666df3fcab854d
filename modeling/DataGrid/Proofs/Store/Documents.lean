import DataGrid.Proofs.Json.Order
import DataGrid.Proofs.Store.Result

/-!
# Documents in the store

How the store looks into documents. A member of an object can be had as a document again, or as
text. What is no object has no members, and as text the null of a document becomes the null of the
store. How values other than strings are printed is left open.

## Main definitions

* `DataGrid.Json.content?` — a value as text.
* `DataGrid.Sql.Scalars.Documents` — a store that keeps documents.
* `DataGrid.Sql.Scalars.Documents.Shows` — a cell and what a row shows of it.
* `DataGrid.Sql.Stored` — constants and documents as the values of a store.
-/

namespace DataGrid

/-- A value as text: null is none, a string is its own content, and all else is printed. -/
def Json.content? (print : Json → String) : Json → Option String
  | .null => none
  | .string s => some s
  | j => some (print j)

/-- Only null has no content. -/
lemma Json.content?_eq_none {print : Json → String} {j : Json} :
    j.content? print = none ↔ j = .null := by
  cases j <;> simp [content?]

namespace Sql

variable {V : Type} {S : Scalars V}

/-- A store that keeps documents and knows their members. -/
structure Scalars.Documents (S : Scalars V) where
  /-- The value of a document. -/
  document : Json → V
  /-- The text of what is neither null nor a string. -/
  print : Json → String
  member_document : ∀ key j, S.member false key (document j) = (j.get? key).map document
  member_text : ∀ key j, S.member true key (document j) =
    (j.get? key).bind fun member => (member.content? print).map S.ofText

namespace Scalars.Documents

/-- What a row in JSON shows of the cell of a document column. Null may come from a cell that is
null or from a document that is. -/
inductive Shows (D : S.Documents) : Option Json → Option V → Prop
  | absent : D.Shows none none
  | null : D.Shows (some .null) none
  | document (j : Json) : D.Shows (some j) (some (D.document j))

end Scalars.Documents

/-! ## Constants and documents -/

/-- A constant or a document. -/
inductive Stored where
  | constant (v : Literal)
  | document (j : Json)

namespace Stored

/-- The constant, and null for a document. -/
def literal : Stored → Literal
  | .constant v => v
  | .document _ => .null

/-- The document, and null for a constant. -/
def json : Stored → Json
  | .constant _ => .null
  | .document j => j

/-- Documents come before constants; each kind has its own order. -/
def order : Stored → Stored → Ordering :=
  compareLex (fun a b => a.literal.order b.literal) fun a b => a.json.compare b.json

/-- Constants and documents as the values of a store whose casts change nothing and whose patterns
have no wildcards. -/
def scalars : Scalars Stored where
  ofBool b := .constant (.bool b)
  ofInt n := .constant (.int n)
  ofFloat x := .constant (.float x)
  ofText s := .constant (.string s)
  truth? v := match v with
    | .constant (.bool b) => some b
    | _ => none
  truth?_ofBool _ := rfl
  order := order
  order_trans := by
    have hliteral : Std.TransCmp Literal.order := Scalars.ofLiterals.order_trans
    have hconstants := transCmp_comap Stored.literal Literal.order
    have hdocuments := transCmp_comap Stored.json Json.compare
    exact inferInstanceAs (Std.TransCmp (compareLex _ _))
  cast _ v := some v
  member asText key v := match v, asText with
    | .constant _, _ => none
    | .document j, false => (j.get? key).map .document
    | .document j, true =>
      (j.get? key).bind fun member => (member.content? Json.text).map fun s => .constant (.string s)
  like pattern v := match v with
    | .constant v => v == .string pattern
    | .document _ => false

/-- Its documents are printed without blanks. -/
def documents : scalars.Documents where
  document := .document
  print := Json.text
  member_document _ _ := rfl
  member_text _ _ := rfl

end Stored

end Sql

end DataGrid
