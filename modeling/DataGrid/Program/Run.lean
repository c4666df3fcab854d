import DataGrid.Program.CommandLine
import DataGrid.Program.EnvironmentFile
import DataGrid.Query.Listing
import DataGrid.Request.Wire
import DataGrid.Schema.File
import DataGrid.Sql.Printer

/-!
# The program

A run of the program, from its arguments to its output. How files are read is left open, so that
the same run can be observed on files that exist only in thought.

## Main definitions

* `DataGrid.Surroundings` — what the program can read.
* `DataGrid.Outcome` — output, complaints and exit code.
* `DataGrid.run` — the run.

## Implementation notes

There is no connection to a store: a run that needs one ends with the complaint that it cannot be
reached. Everything before that point is done and complained about first.
-/

namespace DataGrid

/-- What the program can read. -/
structure Surroundings (m : Type → Type) where
  file : String → m FileView
  /-- The standard input. -/
  input : m FileView

/-- The end of a run. -/
structure Outcome where
  code : UInt32
  /-- The lines that were printed. -/
  output : List String := []
  /-- What the run failed for, from the outside in. -/
  complaint : List String := []

namespace Outcome

/-- A failure after some output. -/
def failed (complaint : List String) (output : List String := []) : Outcome :=
  { code := 1, output := output, complaint := complaint }

/-- The arguments were refused. -/
def misused : Outcome := { code := 2 }

/-- The output of a run that succeeded. -/
def printed (output : List String) : Outcome := { code := 0, output := output }

end Outcome

/-! ## Requests -/

/-- The request that a text holds, or the complaint about it. -/
def readRequest (text : String) : Except (List String) Request :=
  if (Text.trim text).isEmpty then .error ["request document is empty"]
  else
    match Request.ofText? text with
    | some request => .ok request
    | none => .error ["request is not a valid grid request"]

/-- Whether the path of a request stands for the standard input: it is a dash, or a dash with
nothing but slashes and dots behind it. -/
def isStandardInput (path : String) : Bool :=
  match Text.segments '/' path with
  | dash :: rest => dash == "-" && rest.all isIdle
  | [] => false

/-- The complaint about a request that cannot be read. -/
def unreadableRequest (path : String) : List String :=
  if isStandardInput path then ["failed to read request from stdin"]
  else ["failed to read request file " ++ path]

/-- The compiled request of a command line, or the complaint about it. -/
def CommandLine.query (c : CommandLine) (r : Registry) (found : FileView) :
    Except (List String) Query := do
  let text ← match found.text? with
    | some text => pure text
    | none => throw (unreadableRequest c.request)
  let request ← readRequest text
  (r.subject c.entity >>= fun subject => r.compile subject request).mapError fun f =>
    ["failed to compile request for " ++ c.entity, f.message]

/-! ## Commands -/

/-- The statements of a compiled request, one on a line: those of the page, of the total and of the
value listing, if the request names a column. -/
def printStatements (r : Registry) (q : Query) : Outcome :=
  let statements := [q.page.text, q.total.text]
  if q.request.column.isNone then .printed statements
  else
    match q.listing r [allColumns] with
    | .ok listing => .printed (statements ++ [listing.statement.text])
    | .error f => .failed [f.message] statements

/-- The end of a run that needs a store. -/
def unreachable (config : Config) : Outcome :=
  match config.requireUrl with
  | .error f => .failed f.chain
  | .ok _ => .failed ["failed to connect to PostgreSQL"]

/-- The end of a run with a compiled request. -/
def Command.outcome (command : Command) (config : Config) (r : Registry) (q : Query) : Outcome :=
  match command with
  | .compile => printStatements r q
  | _ => unreachable config

/-! ## Runs -/

section

variable {m : Type → Type} [Monad m]

/-- A run of a command line under a configuration. -/
def CommandLine.run (c : CommandLine) (s : Surroundings m) (config : Config) : m Outcome := do
  let path := c.schema.getD config.schemaPath
  match loadSchema path (← s.file path) with
  | .error f => return .failed f.chain
  | .ok r =>
    let found ← if isStandardInput c.request then s.input else s.file c.request
    match c.query r found with
    | .error complaint => return .failed complaint
    | .ok q => return c.command.outcome config r q

/-- The file whose variables complete the environment. -/
def environmentFile : String := ".env"

/-- A run of the program. -/
def run (s : Surroundings m) (env : Environment) (arguments : List String) : m Outcome := do
  let env := match ← s.file environmentFile with
    | .file content => env.completed content
    | _ => env
  match CommandLine.ofArguments? arguments with
  | none => return .misused
  | some c =>
    match Config.ofEnvironment env with
    | .error f => return .failed ("failed to load configuration" :: f.chain)
    | .ok config => c.run s config

end

end DataGrid
