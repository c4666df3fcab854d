import DataGrid.Proofs.Query.Identifiers
import DataGrid.Proofs.Query.Pagination
import DataGrid.Proofs.Session.Runs

/-!
# The numbers of rows

The rows of a page are numbered from the row that the request starts at, also where its window was
not made part of the query because the request does not say where to stop, or where a custom filter
set an offset of its own. A number is exact as long as it is one that 64 bits can hold; a page of a
request with both ends cannot get beyond that, unless the store returns more rows than it was asked
for.

## Main definitions

* `DataGrid.Json.Numbered` — a row as it was, but for its number.

## Main results

* `DataGrid.Page.getElem?_numberFrom` — which number a row gets.
* `DataGrid.Registry.window_of_compile` — the offset and the limit of a compiled request.
* `DataGrid.Session.rows_numbered_from_start` — the numbers of a page.
-/

namespace DataGrid

/-! ## Numbered rows -/

/-- The row `changed` is the row `given` with the number `n`. An object has it as its member, all
others being left, and what is not an object has no number. -/
inductive Json.Numbered (n : Nat) : Json → Json → Prop
  | object {given changed : List (String × Json)}
    (number : ∃ hrange, Keyed.find? Page.numberName changed = some (.number (.int n hrange)))
    (others : ∀ key, key ≠ Page.numberName → Keyed.find? key changed = Keyed.find? key given) :
    Numbered n (.object given) (.object changed)
  | other {row : Json} (hother : row.object? = none) : Numbered n row row

namespace Page

/-- A word put into an object is a number of it. -/
lemma numbered_set (row : Json) (n : UInt64) :
    row.Numbered n.toNat (row.set numberName (.number (.ofUInt64 n))) := by
  cases row with
  | object members =>
    refine .object ⟨⟨by omega, by have h := n.toNat_lt; omega⟩, ?_⟩ fun key hkey => ?_
    · rw [Keyed.find?_insert, if_pos rfl]
      rfl
    · rw [Keyed.find?_insert, if_neg (Ne.symm hkey)]
  | _ => exact .other rfl

/-- Each row gets the number of its position, as far as 64 bits go. -/
lemma getElem?_numberFrom (n : UInt64) (rows : List Json) (i : Nat) :
    (numberFrom n rows)[i]? =
      rows[i]?.map fun row => row.set numberName (.number (.ofUInt64 (n + .ofNat i))) := by
  induction rows generalizing n i with
  | nil => rfl
  | cons row rest ih =>
    cases i with
    | zero => simp [numberFrom]
    | succ i =>
      have hnext : n + 1 + UInt64.ofNat i = n + UInt64.ofNat (i + 1) := by
        rw [UInt64.ofNat_add, UInt64.add_assoc, UInt64.add_comm 1]
        rfl
      rw [numberFrom, List.getElem?_cons_succ, List.getElem?_cons_succ, ih, hnext]

/-- The rows of a numbered page are numbered by their positions, as far as 64 bits can count. -/
lemma numbered_of_getElem? {p : Page} {start : UInt64} {i : Nat} {row changed : Json}
    (hrow : p.rows[i]? = some row) (hchanged : (p.numbered start).rows[i]? = some changed)
    (hfits : start.toNat + i + 1 < UInt64.size) : row.Numbered (start.toNat + i + 1) changed := by
  have hsum : (start + 1 + UInt64.ofNat i).toNat = start.toNat + i + 1 := by
    have hone : (1 : UInt64).toNat = 1 := rfl
    have hi : (UInt64.ofNat i).toNat = i := UInt64.toNat_ofNat_of_lt' (by omega)
    have hsize : UInt64.size = 2 ^ 64 := rfl
    rw [UInt64.toNat_add, UInt64.toNat_add, hone, hi]
    omega
  rw [numbered, getElem?_numberFrom, hrow, Option.map_some] at hchanged
  rw [← Option.some.inj hchanged, ← hsum]
  exact numbered_set row _

end Page

/-! ## Offsets -/

section

variable {r : Registry} {subject : Subject} {request : Request} {q : Query}
  {start customized : Scope}

/-- **The window of a compiled request** is its own if both ends are given, and otherwise what the
custom filter has set. -/
theorem Registry.window_of_compile (hcompile : r.compile subject request = .ok q)
    (hstart : subject.scope = .ok start)
    (hcustom : (r.customize subject.entity request.customFilters start).toExcept = .ok customized) :
    match Window.ofRequest? request with
    | some w => q.scope.offset = some w.start ∧ q.scope.limit = some w.limit
    | none => q.scope.offset = customized.offset ∧ q.scope.limit = customized.limit := by
  obtain ⟨start', conditions, selected, hstages⟩ := Registry.compile_spec hcompile
  obtain rfl : start' = start := Except.ok.inj (hstages.start_eq.symm.trans hstart)
  obtain ⟨added, hscope⟩ := hstages.exists_customized_eq hcustom
  obtain ⟨orders, hsorted⟩ := customized.exists_sort_eq r subject.entity request.sorts
  rw [hscope, hsorted, Scope.windowFrom]
  cases Window.ofRequest? request with
  | some w => exact ⟨rfl, rfl⟩
  | none => exact ⟨rfl, rfl⟩

/-! ## Pages -/

/-- **The numbers of a page.** With numbered rows, each object of a page gets as its number the row
that the request starts at, plus its position, plus one, provided that 64 bits can hold this number.
Whatever the number is, nothing else of the rows changes.

The row that the request starts at is the offset of the query if both ends of the window are given,
and then no number of a page with at most as many rows as asked for is too large. Otherwise the
offset of the query is what the custom filter has set, which the numbers do not look at.

**Proof sketch.** A page has the rows that the store has prepared (`Session.page_eq_ok`), and the
numbering goes through them one by one (`Page.numbered_of_getElem?`). The window is the last stage
of compilation (`Registry.window_of_compile`), and its last row is one that 64 bits can hold. -/
theorem Session.rows_numbered_from_start (hcompile : r.compile subject request = .ok q)
    (hstart : subject.scope = .ok start)
    (hcustom : (r.customize subject.entity request.customFilters start).toExcept = .ok customized)
    {s : Session} (hquery : s.query = q) (hnumbered : s.numbered = true) {store : Store}
    {page : Page} (hpage : (s.respond store).1 = .ok (.page page)) :
    List.Forall₂ (SameBut Page.numberName) store.rows page.rows ∧
    (∀ i row changed, store.rows[i]? = some row → page.rows[i]? = some changed →
      (request.startRow.getD 0).toNat + i + 1 < UInt64.size →
      row.Numbered ((request.startRow.getD 0).toNat + i + 1) changed) ∧
    (∀ first stop, request.startRow = some first → request.endRow = some stop →
      q.scope.offset = some first ∧
      ∀ limit, q.scope.limit = some limit → store.rows.length ≤ limit.toNat →
        ∀ i < store.rows.length, first.toNat + i + 1 < UInt64.size) ∧
    (request.startRow = none ∨ request.endRow = none → q.scope.offset = customized.offset) := by
  have hwindow := Registry.window_of_compile hcompile hstart hcustom
  have hrequest : q.request = request := by
    obtain ⟨_, _, _, hstages⟩ := Registry.compile_spec hcompile
    exact hstages.request_eq
  have hrows : page.rows =
      (Page.numbered ⟨page.total, store.rows⟩ (request.startRow.getD 0)).rows := by
    rw [respond] at hpage
    split at hpage
    · cases hpage
    · obtain ⟨_, hanswer, hsame⟩ := map_eq_ok.mp hpage
      obtain rfl := Response.page.inj hsame
      obtain ⟨total, -, -, rfl⟩ := s.page_eq_ok store hanswer
      rw [pageOf, hnumbered, if_pos rfl, hquery, hrequest]
      rfl
  refine ⟨?_, fun i row changed hrow hchanged hfits => ?_, fun first stop hfirst hstop => ?_,
    fun hopen => ?_⟩
  · rw [hrows]
    exact sameBut_numberFrom _ store.rows
  · rw [hrows] at hchanged
    exact Page.numbered_of_getElem? hrow hchanged hfits
  · rw [Window.ofRequest?, hfirst, hstop] at hwindow
    obtain ⟨hoffset, hlimit⟩ := hwindow
    refine ⟨hoffset, fun limit h hlength i hi => ?_⟩
    rw [← Option.some.inj (hlimit.symm.trans h), Window.toNat_limit] at hlength
    have hend := stop.toNat_lt
    have hsize : UInt64.size = 2 ^ 64 := rfl
    dsimp only at hlength
    omega
  · have hnone : Window.ofRequest? request = none := by
      unfold Window.ofRequest?
      rcases hopen with hopen | hopen <;> rw [hopen]
      cases request.startRow <;> rfl
    rw [hnone] at hwindow
    exact hwindow.1

end

/-- A row without and a row with a number of its own, and a row that is no object. -/
def Zoo.mixedRows : List Json :=
  [.object [("id", .number (.int 7 (by decide)))], .object [("__index", .null)], .string "id"]

/-- The second page of three rows, numbered. -/
theorem Session.rows_numbered_from_start_flamingos :
    ∃ r q page, Zoo.registry = .ok r ∧
      r.compile { entity := Zoo.flamingos } { startRow := some 3, endRow := some 6 } = .ok q ∧
      (Session.respond ⟨r, q, none, true⟩ { rows := Zoo.mixedRows }).1 = .ok (.page page) ∧
      q.scope.offset = some 3 ∧
      ∀ (i : Nat) (row changed : Json), Zoo.mixedRows[i]? = some row →
        page.rows[i]? = some changed → row.Numbered (3 + i + 1) changed := by
  have hnumbers : ∀ r q page, Zoo.registry = .ok r →
      r.compile { entity := Zoo.flamingos } { startRow := some 3, endRow := some 6 } = .ok q →
      (Session.respond ⟨r, q, none, true⟩ { rows := Zoo.mixedRows }).1 = .ok (.page page) →
      r.hook? "flamingos" = none → q.scope.limit = some 3 →
      q.scope.offset = some 3 ∧
      ∀ (i : Nat) (row changed : Json), Zoo.mixedRows[i]? = some row →
        page.rows[i]? = some changed → row.Numbered (3 + i + 1) changed := by
    intro r q page _ hcompile hpage hhook hlimit
    have hcustom : (r.customize Zoo.flamingos [] (Subject.freshScope Zoo.flamingos)).toExcept =
        .ok (Subject.freshScope Zoo.flamingos) := by
      rw [Registry.customize, show r.hook? Zoo.flamingos.name = none from hhook]
      rfl
    obtain ⟨-, hnumbered, hwindow, -⟩ :=
      Session.rows_numbered_from_start hcompile rfl hcustom rfl rfl hpage
    obtain ⟨hoffset, hfits⟩ := hwindow 3 6 rfl rfl
    refine ⟨hoffset, fun i row changed hrow hchanged => hnumbered i row changed hrow hchanged ?_⟩
    exact hfits 3 hlimit (Nat.le_refl 3) i (List.getElem?_eq_some_iff.mp hrow).1
  exact ⟨_, _, _, rfl, rfl, rfl, hnumbers _ _ _ rfl rfl rfl rfl rfl⟩

/-- **A first row without a last one.** The query has no offset, and so its first row is the first
of all; but it gets the number eleven. -/
theorem Session.numbers_pass_over_missing_window :
    ∃ r q page, Zoo.registry = .ok r ∧
      r.compile { entity := Zoo.flamingos } { startRow := some 10 } = .ok q ∧
      q.scope.offset = none ∧
      (Session.respond ⟨r, q, none, true⟩ { rows := Zoo.mixedRows }).1 = .ok (.page page) ∧
      (page.rows[0]?.bind fun row => row.get? Page.numberName) =
        some (.number (.int 11 (by decide))) :=
  ⟨_, _, _, rfl, rfl, rfl, rfl, rfl⟩

end DataGrid
