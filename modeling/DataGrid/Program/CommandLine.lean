/-!
# Command lines

The commands of the program and their options.

## Main definitions

* `DataGrid.Command` — the commands.
* `DataGrid.CommandLine` — a command with the options that all commands have.
* `DataGrid.CommandLine.ofArguments?` — the command line of a list of arguments.

## Implementation notes

An option takes its value from the same argument, behind an equals sign, or from the next one, which
must not look like an option. Only the option for allowed columns may be repeated.
-/

namespace DataGrid

/-- What the program is asked to do with a request. -/
inductive Command where
  /-- Print the statements. -/
  | compile
  /-- Print the page, numbered or not. -/
  | rows (numbered : Bool)
  /-- Print the total number of rows. -/
  | count
  /-- Print the distinct values of the column that the request names. -/
  | values (allowed : List String)
deriving DecidableEq

/-- A command with its request. -/
structure CommandLine where
  command : Command
  entity : String
  /-- The file of the request; a dash stands for the standard input. -/
  request : String
  /-- The schema file, if it is not the one of the configuration. -/
  schema : Option String
deriving DecidableEq

/-! ## Options -/

/-- An option with its value. -/
structure Flag where
  name : String
  value : Option String
deriving DecidableEq

/-- An argument that looks like an option; a single dash does not. -/
def looksLikeFlag (s : String) : Bool :=
  match s.toList with
  | '-' :: _ :: _ => true
  | _ => false

/-- The name and the value of a long option. -/
def splitFlag? (s : String) : Option Flag :=
  match s.toList with
  | '-' :: '-' :: name =>
    let before := name.takeWhile (· != '=')
    let after := name.drop before.length
    if before.isEmpty then none
    else some ⟨String.ofList before,
      if after.isEmpty then none else some (String.ofList (after.drop 1))⟩
  | _ => none

/-- The options at the front of the arguments and the arguments behind them. `valued` are the names
of options with a value, `bare` of those without one. -/
def takeFlags? (valued bare : List String) : List String → Option (List Flag × List String)
  | [] => some ([], [])
  | "--" :: rest => some ([], "--" :: rest)
  | argument :: rest =>
    if !looksLikeFlag argument then some ([], argument :: rest)
    else
      match splitFlag? argument with
      | none => none
      | some ⟨name, some value⟩ =>
        if valued.contains name then
          (takeFlags? valued bare rest).map fun (flags, rest) => (⟨name, some value⟩ :: flags, rest)
        else none
      | some ⟨name, none⟩ =>
        if bare.contains name then
          (takeFlags? valued bare rest).map fun (flags, rest) => (⟨name, none⟩ :: flags, rest)
        else if valued.contains name then
          match rest with
          | [] => none
          | value :: rest =>
            if looksLikeFlag value then none
            else (takeFlags? valued bare rest).map fun (flags, rest) =>
              (⟨name, some value⟩ :: flags, rest)
        else none

namespace Flag

/-- The values of an option. -/
def valuesOf (name : String) (flags : List Flag) : List String :=
  (flags.filter fun f => f.name == name).filterMap Flag.value

/-- The value of an option that may be missing but not repeated. -/
def single? (name : String) (flags : List Flag) : Option (Option String) :=
  match valuesOf name flags with
  | [] => some none
  | [value] => some (some value)
  | _ => none

/-- The value of an option that names a file, which may be missing but not repeated or empty. -/
def path? (name : String) (flags : List Flag) : Option (Option String) :=
  match single? name flags with
  | some (some "") => none
  | found => found

/-- Whether an option without value is there; it may not be repeated. -/
def given? (name : String) (flags : List Flag) : Option Bool :=
  match (flags.filter fun f => f.name == name).length with
  | 0 => some false
  | 1 => some true
  | _ => none

end Flag

/-! ## Commands -/

/-- The names of a command's own options, with and without a value. -/
def commandFlags? : String → Option (List String × List String)
  | "compile" => some ([], [])
  | "rows" => some ([], ["index"])
  | "count" => some ([], [])
  | "values" => some (["allow"], [])
  | _ => none

/-- The command of the given name and options. -/
def Command.ofFlags? (name : String) (flags : List Flag) : Option Command :=
  match name with
  | "compile" => some .compile
  | "rows" => (Flag.given? "index" flags).map .rows
  | "count" => some .count
  | "values" =>
    match Flag.valuesOf "allow" flags with
    | [] => none
    | allowed => some (.values allowed)
  | _ => none

namespace CommandLine

/-- The command line of a list of arguments, without the name of the program. The schema file may be
given in front of the command or behind it; the latter counts. -/
def ofArguments? (arguments : List String) : Option CommandLine := do
  let (outer, rest) ← takeFlags? ["schema"] [] arguments
  match rest with
  | [] => none
  | name :: rest =>
    let (valued, bare) ← commandFlags? name
    let (flags, rest) ← takeFlags? (["schema", "entity", "request"] ++ valued) bare rest
    if rest != [] && rest != ["--"] then none
    else
      let command ← Command.ofFlags? name flags
      let entity ← (Flag.single? "entity" flags).join
      let request ← Flag.path? "request" flags
      let outerSchema ← Flag.path? "schema" outer
      let schema ← Flag.path? "schema" flags
      return {
        command := command
        entity := entity
        request := request.getD "-"
        schema := schema.or outerSchema }

end CommandLine

end DataGrid
