import DataGrid.Decimal.Reader

/-!
# Configuration

The settings of the program, taken from environment variables.

## Main definitions

* `DataGrid.Environment` — variables by name.
* `DataGrid.Config` — the settings.
* `DataGrid.Config.ofEnvironment` — the settings of an environment.
-/

namespace DataGrid

/-- Variables by name; the first one of a name counts. -/
abbrev Environment := List (String × String)

/-- The settings. -/
structure Config where
  /-- Where the store is; needed only to run statements. -/
  databaseUrl : Option String
  maxConnections : UInt32
  schemaPath : String
  /-- The time limit of a statement, in milliseconds. -/
  timeout : UInt64

/-! ## Faults -/

/-- Why a text is no natural number below a bound. -/
inductive NumberFault where
  | empty
  | invalidDigit
  | tooLarge
deriving DecidableEq

/-- The wording of a number fault. -/
def NumberFault.message : NumberFault → String
  | .empty => "cannot parse integer from empty string"
  | .invalidDigit => "invalid digit found in string"
  | .tooLarge => "number too large to fit in target type"

/-- Why settings are refused. -/
inductive ConfigFault where
  | maxConnections (why : NumberFault)
  | timeout (why : NumberFault)
  | noDatabaseUrl
deriving DecidableEq

/-- The wording of a fault, from the outside in. -/
def ConfigFault.chain : ConfigFault → List String
  | .maxConnections why => ["DATABASE_MAX_CONNECTIONS must be a valid u32", why.message]
  | .timeout why => ["GRID_STATEMENT_TIMEOUT_MS must be a valid u64", why.message]
  | .noDatabaseUrl => ["DATABASE_URL environment variable is required for this command"]

/-! ## Numbers -/

/-- The number that decimal digits write behind those of `n`. The first digit that is none or makes
the number too large decides about the fault. -/
def boundedFrom (bound n : Nat) : List Char → Except NumberFault Nat
  | [] => .ok n
  | c :: rest =>
    if !c.isDigit then .error .invalidDigit
    else if 10 * n + digitValue c < bound then boundedFrom bound (10 * n + digitValue c) rest
    else .error .tooLarge

/-- A natural number below a bound; a plus sign may stand in front of its digits. -/
def boundedNumber (bound : Nat) (s : String) : Except NumberFault Nat :=
  match s.toList with
  | [] => .error .empty
  | ['+'] => .error .invalidDigit
  | '+' :: digits => boundedFrom bound 0 digits
  | digits => boundedFrom bound 0 digits

/-! ## Settings -/

namespace Config

/-- The variables that hold settings. -/
def names : List String :=
  ["DATABASE_URL", "DATABASE_MAX_CONNECTIONS", "GRID_SCHEMA_PATH", "GRID_STATEMENT_TIMEOUT_MS"]

/-- The settings of an environment. An empty address of the store counts as none. -/
def ofEnvironment (env : Environment) : Except ConfigFault Config := do
  let connections ← (boundedNumber (2 ^ 32)
    ((env.lookup "DATABASE_MAX_CONNECTIONS").getD "5")).mapError .maxConnections
  let timeout ← (boundedNumber (2 ^ 64)
    ((env.lookup "GRID_STATEMENT_TIMEOUT_MS").getD "10000")).mapError .timeout
  return {
    databaseUrl := (env.lookup "DATABASE_URL").filter fun url => url != ""
    maxConnections := connections.toUInt32
    schemaPath := (env.lookup "GRID_SCHEMA_PATH").getD "./grid-schema.yml"
    timeout := timeout.toUInt64 }

/-- The address of the store, which must be set. -/
def requireUrl (c : Config) : Except ConfigFault String :=
  match c.databaseUrl with
  | some url => .ok url
  | none => .error .noDatabaseUrl

end Config

end DataGrid
