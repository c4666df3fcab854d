import DataGrid.Program.Run

/-!
# Entry point

The program on the real file system and the real standard streams.
-/

namespace DataGrid

/-- What is found at a path of the file system. Nothing is there if the way to it leads through a
file; what is there but cannot be read counts as a directory. -/
def findFile (path : String) : IO FileView := do
  try
    return .file (← IO.FS.readBinFile path)
  catch e =>
    match e with
    | .noFileOrDirectory _ _ _ => return .missing
    | .inappropriateType (some _) _ _ => return .missing
    | _ => return .directory

/-- The variable of an entry, a name and a value with an equals sign between them. -/
def variableOf (entry : List Char) : String × String :=
  (String.ofList (entry.takeWhile (· != '=')), String.ofList ((entry.dropWhile (· != '=')).drop 1))

/-- The variables of the process; of a system that does not list them, those that hold settings. -/
def processEnvironment : IO Environment := do
  let listed ← findFile "/proc/self/environ"
  match listed.text? with
  | some text =>
    return (((Text.splitChars '\x00' text.toList).filter fun s => !s.isEmpty).map variableOf)
  | none =>
    Config.names.filterMapM fun name => do return (← IO.getEnv name).map fun value => (name, value)

/-- The causes of a failure, one on a line. -/
def causeLines : List String → List String
  | [] => []
  | causes => ["", "Caused by:"] ++ causes.map fun cause => "    " ++ cause

/-- A complaint as it is printed. -/
def complaintLines : List String → List String
  | [] => []
  | reason :: causes => ("Error: " ++ reason) :: causeLines causes

/-- Run the program on the real file system and print what comes of it. -/
def runProgram (arguments : List String) : IO UInt32 := do
  let surroundings : Surroundings IO := { file := findFile, input := findFile "/dev/stdin" }
  let outcome ← run surroundings (← processEnvironment) arguments
  outcome.output.forM IO.println
  (complaintLines outcome.complaint).forM IO.eprintln
  return outcome.code

end DataGrid

/-- The program. -/
def main (arguments : List String) : IO UInt32 := DataGrid.runProgram arguments
