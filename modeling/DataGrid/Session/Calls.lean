import DataGrid.Query.Listing
import DataGrid.Session.Response
import DataGrid.Session.Store

/-!
# Sessions

A compiled request that is answered from a store, any number of times. Its statements depend on the
compiled request alone; which of them a call sends to the store, on the settings of the caller too.

## Main definitions

* `DataGrid.Session` — a compiled request with the choices of its caller.
* `DataGrid.Session.numberRows`, `DataGrid.Session.setTotal` — the settings.
* `DataGrid.Session.pageText`, `DataGrid.Session.totalText`, `DataGrid.Session.listingText` — the
  texts of the statements.
* `DataGrid.Session.count`, `DataGrid.Session.rows`, `DataGrid.Session.values`,
  `DataGrid.Session.respond` — the calls. Each returns its answer and the store afterwards.
* `DataGrid.Session.Call`, `DataGrid.Session.configure`, `DataGrid.Session.perform` — calls and
  settings as data, the session behind one, and what one returns.
-/

namespace DataGrid

/-- A compiled request that is being answered. -/
structure Session where
  registry : Registry
  query : Query
  /-- The total number of rows, if the caller knows it. -/
  total : Option UInt64 := none
  /-- The rows of a page are numbered. -/
  numbered : Bool := false

namespace Session

/-! ## Settings -/

/-- From now on the rows of a page are numbered. -/
def numberRows (s : Session) : Session := { s with numbered := true }

/-- From now on the total is the given one, and the store is not asked for it. -/
def setTotal (s : Session) (n : UInt64) : Session := { s with total := some n }

/-! ## Statements -/

/-- The text of the statement for the page. -/
def pageText (s : Session) : String := s.query.page.text

/-- The text of the statement for the total. -/
def totalText (s : Session) : String := s.query.total.text

/-- The text of the value listing, if the allow-list admits it. -/
def listingText (s : Session) (allowed : List String) : Except Fault String :=
  (s.query.listing s.registry allowed).map fun l => l.statement.text

/-! ## Calls -/

/-- A count of the store as a total; a negative one counts as zero. -/
def totalOf (n : Int) : UInt64 := n.toNat.toUInt64

/-- The total number of rows. -/
def count (s : Session) (store : Store) : Except Fault UInt64 × Store :=
  match s.total with
  | some n => (.ok n, store)
  | none =>
    let (answer, after) := store.fetchCount s.query.total
    (answer.map totalOf, after)

/-- The rows of the page. -/
def rows (s : Session) (store : Store) : Except Fault (List Json) × Store :=
  store.fetchRows s.query.page

/-- The distinct values of the column that the request names. -/
def values (s : Session) (allowed : List String) (store : Store) :
    Except Fault (List Json) × Store :=
  match s.query.listing s.registry allowed with
  | .error f => (.error f, store)
  | .ok listing =>
    let (answer, after) := store.fetchRows listing.statement
    (answer.map listing.values, after)

/-- The page that the request asks for: first its total, then its rows. -/
def page (s : Session) (store : Store) : Except Fault Page × Store :=
  match s.count store with
  | (.error f, after) => (.error f, after)
  | (.ok total, counted) =>
    match s.rows counted with
    | (.error f, after) => (.error f, after)
    | (.ok rows, after) =>
      let page : Page := { total := total, rows := rows }
      (.ok (if s.numbered then page.numbered (s.query.request.startRow.getD 0) else page), after)

/-- The export that the request asks for. -/
def exportOf (s : Session) (format : ExportFormat) : Export where
  format := format
  columns := s.query.request.exportColumns
  definitions := (s.registry.exports? s.query.subject.entity.name).getD []
  scope := s.query.scope

/-- Answer the request: with an export if it names a format, and otherwise with its page. -/
def respond (s : Session) (store : Store) : Except Fault Response × Store :=
  match s.query.request.exportFormat with
  | some format => (.ok (.file (s.exportOf format)), store)
  | none =>
    let (answer, after) := s.page store
    (answer.map .page, after)

/-! ## Calls as data -/

/-- What a client asks of a session. -/
inductive Call where
  | count
  | rows
  | values (allowed : List String)
  | respond
  | numberRows
  | setTotal (n : UInt64)

/-- What a call returns. -/
inductive Reply where
  | total (n : UInt64)
  | rows (rows : List Json)
  | values (values : List Json)
  | response (r : Response)
  /-- A setting was made. -/
  | done

/-- The session after a call: only settings change it. -/
def configure (s : Session) : Call → Session
  | .numberRows => s.numberRows
  | .setTotal n => s.setTotal n
  | .count | .rows | .values _ | .respond => s

/-- What a call returns, and the store after it. -/
def perform (s : Session) (store : Store) : Call → Except Fault Reply × Store
  | .count => ((s.count store).1.map .total, (s.count store).2)
  | .rows => ((s.rows store).1.map .rows, (s.rows store).2)
  | .values allowed => ((s.values allowed store).1.map .values, (s.values allowed store).2)
  | .respond => ((s.respond store).1.map .response, (s.respond store).2)
  | .numberRows | .setTotal _ => (.ok .done, store)

end Session

end DataGrid
