import DataGrid.Program.Run

/-!
# File trees

Files that exist only in thought: a working directory with everything in it, and what is found there
at a path.

## Main definitions

* `DataGrid.FileTree` — the content of a working directory.
* `DataGrid.FileTree.find` — what is found at a path.
* `DataGrid.FileTree.surroundings` — the surroundings of a run in that directory.

## Implementation notes

Nothing is known of the world around the working directory but that it has directories: paths that
leave the working directory never find a file, and never come back.
-/

namespace DataGrid

/-- The content of a working directory, by the names that lead to it. The directories on the way are
there, too. -/
abbrev FileTree := List (List String × FileView)

namespace FileTree

/-- The tree with files and directories at the given paths. -/
def ofPaths (entries : List (String × FileView)) : FileTree :=
  entries.map fun (path, found) => (pathSteps path, found)

/-- What is found behind some names, none of which leads back. -/
def entry (t : FileTree) (names : List String) : FileView :=
  match t.lookup names with
  | some found => found
  | none => if t.any fun e => names.isPrefixOf e.1 then .directory else .missing

/-- What is found outside of the working directory. -/
def outside (segments : List String) : FileView :=
  if segments.all fun s => isIdle s || s == ".." then .directory else .missing

/-- What is found along the segments of a path from a place in the tree; `names` lead to this place,
the last one first. Whatever stands in front of a slash must be a directory. -/
def follow (t : FileTree) (names : List String) : List String → FileView
  | [] => if names.isEmpty then .directory else t.entry names.reverse
  | segment :: rest =>
    match names.isEmpty, t.entry names.reverse with
    | false, .missing => .missing
    | false, .file _ => .missing
    | _, _ =>
      if isIdle segment then t.follow names rest
      else if segment = ".." then
        match names with
        | [] => outside rest
        | _ :: names => t.follow names rest
      else t.follow (segment :: names) rest

/-- The number of bytes from which on a path is too long. -/
def maxPathSize : Nat := 4096

/-- What is found at a path. -/
def find (t : FileTree) (path : String) : FileView :=
  if path.isEmpty || maxPathSize ≤ path.utf8ByteSize || path.toList.contains '\x00' then .missing
  else
    match Text.segments '/' path with
    | "" :: segments => outside segments
    | segments => t.follow [] segments

/-- The surroundings of a run in the working directory. -/
def surroundings (t : FileTree) (input : FileView) : Surroundings Id where
  file := t.find
  input := input

end FileTree

end DataGrid
