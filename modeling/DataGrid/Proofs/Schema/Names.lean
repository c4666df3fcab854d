import DataGrid.Proofs.Path.Declared
import Mathlib.Data.String.Basic

/-!
# Safe names

The names that a schema may use, and their order. They consist of ASCII characters, so the order of
their characters is also the one of their bytes.

## Main definitions

* `DataGrid.IsSafeIdentifier` — an identifier that the store does not cut off.
* `DataGrid.Text.bytes` — a text in UTF-8.

## Main results

* `DataGrid.isSafeName_iff` — the names that are let through.
* `DataGrid.IsIdentifier.bytes_lt` — identifiers are ordered by their bytes.
-/

namespace DataGrid

/-! ## Safe identifiers -/

/-- An identifier of at most 63 bytes. -/
def IsSafeIdentifier (name : String) : Prop := IsIdentifier name ∧ name.utf8ByteSize ≤ 63

/-- The names that are let through are the safe identifiers. -/
theorem isSafeName_iff {name : String} : isSafeName name = true ↔ IsSafeIdentifier name := by
  constructor
  · intro h
    refine ⟨isIdentifier_of_isSafeName h, ?_⟩
    unfold isSafeName at h
    split at h
    · cases h
    · rw [Bool.and_eq_true, decide_eq_true_eq] at h
      exact h.2
  · rintro ⟨⟨first, rest, hname, hfirst, hrest⟩, hsize⟩
    rw [isSafeName, hname]
    simp only [hfirst, List.all_cons, isNameChar_of_isNameStart hfirst, List.all_eq_true.mpr hrest,
      decide_eq_true hsize, Bool.and_self]

/-! ## Byte order -/

/-- The bytes of a text in UTF-8. -/
def Text.bytes (s : String) : List UInt8 := s.toByteArray.data.toList

/-- The bytes of a text are those of its characters. -/
lemma Text.bytes_eq_flatMap (s : String) : bytes s = s.toList.flatMap String.utf8EncodeChar := by
  rw [bytes, ← String.utf8Encode_toList, List.utf8Encode, List.toList_data_toByteArray]

/-- Characters of names are ASCII. -/
lemma toNat_le_of_isNameChar {c : Char} (h : isNameChar c = true) : c.toNat ≤ 127 := by
  rw [isNameChar, Char.isAlphanum, Bool.or_eq_true, Bool.or_eq_true, beq_iff_eq] at h
  rcases h with (hletter | hdigit) | rfl
  · have hcases : c.isUpper = true ∨ c.isLower = true := (Bool.or_eq_true _ _).mp hletter
    rcases hcases with hupper | hlower
    · have hrange : 'A'.val ≤ c.val ∧ c.val ≤ 'Z'.val := of_decide_eq_true hupper
      exact (UInt32.le_iff_toNat_le.mp hrange.2).trans (by decide)
    · have hmost : c.val ≤ 'z'.val := of_decide_eq_true ((Bool.and_eq_true _ _).mp hlower).2
      exact (UInt32.le_iff_toNat_le.mp hmost).trans (by decide)
  · exact (Char.isDigit_iff_toNat.mp hdigit).2.trans (by decide)
  · decide

/-- Each of them is one byte, in the same order. -/
lemma utf8EncodeChar_of_isNameChar {c : Char} (h : isNameChar c = true) :
    String.utf8EncodeChar c = [c.val.toUInt8] ∧ c.val.toUInt8.toNat = c.toNat := by
  have hascii : c.val.toNat ≤ 127 := toNat_le_of_isNameChar h
  constructor
  · exact String.utf8EncodeChar_eq_singleton
      (Char.utf8Size_eq_one_iff.mpr (UInt32.le_iff_toNat_le.mpr hascii))
  · rw [UInt32.toNat_toUInt8, Nat.mod_eq_of_lt (by omega)]
    rfl

/-- The characters of two names and their bytes have the same order. -/
lemma flatMap_utf8EncodeChar_lt {cs ds : List Char} (hcs : ∀ c ∈ cs, isNameChar c = true)
    (hds : ∀ c ∈ ds, isNameChar c = true) (h : cs < ds) :
    cs.flatMap String.utf8EncodeChar < ds.flatMap String.utf8EncodeChar := by
  induction cs generalizing ds with
  | nil =>
    cases ds with
    | nil => exact absurd h (List.not_lt_nil _)
    | cons d ds =>
      obtain ⟨hbyte, -⟩ := utf8EncodeChar_of_isNameChar (hds d List.mem_cons_self)
      rw [List.flatMap_cons, hbyte]
      exact List.nil_lt_cons _ _
  | cons c cs ih =>
    cases ds with
    | nil => exact absurd h (List.not_lt_nil _)
    | cons d ds =>
      rw [List.forall_mem_cons] at hcs hds
      obtain ⟨hbyte, hvalue⟩ := utf8EncodeChar_of_isNameChar hcs.1
      obtain ⟨hbyte', hvalue'⟩ := utf8EncodeChar_of_isNameChar hds.1
      rw [List.flatMap_cons, List.flatMap_cons, hbyte, hbyte', List.singleton_append,
        List.singleton_append, List.cons_lt_cons_iff]
      rcases List.cons_lt_cons_iff.mp h with hless | ⟨rfl, hless⟩
      · left
        rw [UInt8.lt_iff_toNat_lt, hvalue, hvalue']
        exact hless
      · exact .inr ⟨rfl, ih hcs.2 hds.2 hless⟩

/-- All characters of an identifier may stand in names. -/
lemma IsIdentifier.isNameChar_of_mem {name : String} (h : IsIdentifier name) :
    ∀ c ∈ name.toList, isNameChar c = true := by
  obtain ⟨first, rest, hname, hfirst, hrest⟩ := h
  rw [hname]
  exact List.forall_mem_cons.mpr ⟨isNameChar_of_isNameStart hfirst, hrest⟩

/-- **Identifiers are ordered by their bytes.** -/
lemma IsIdentifier.bytes_lt {a b : String} (ha : IsIdentifier a) (hb : IsIdentifier b)
    (h : a < b) : Text.bytes a < Text.bytes b := by
  rw [Text.bytes_eq_flatMap, Text.bytes_eq_flatMap]
  exact flatMap_utf8EncodeChar_lt ha.isNameChar_of_mem hb.isNameChar_of_mem
    (String.lt_iff_toList_lt.mp h)

end DataGrid
