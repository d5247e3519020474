import Dataflow.File.Access
/-!
# File trees

A file system in memory: directories and files by their names from the root, and a working
directory that relative paths start from. Paths are followed name by name, so `a/../b` needs `a`.
-/

namespace Dataflow

/-- What stands at a place of a file tree. -/
inductive FileEntry where
  | directory
  | file (content : ByteArray)

/-- Directories and files by their names from the root, which is always there. -/
structure FileTree where
  entries : List (List String × FileEntry)
  workingDirectory : List String

namespace FileTree

/-- What stands at a place. -/
def entry? (t : FileTree) (names : List String) : Option FileEntry :=
  if names.isEmpty then some .directory else t.entries.lookup names

/-- Puts an entry at a place. -/
def put (t : FileTree) (names : List String) (entry : FileEntry) : FileTree :=
  { t with entries := (names, entry) :: t.entries.filter fun e => e.1 != names }

/-- Where a path leads. -/
inductive Place where
  | directory (names : List String)
  | file (names : List String) (content : ByteArray)
  /-- Nothing is there, but its directory is. -/
  | vacant (names : List String)

/-- The greatest number of bytes in a name. -/
def maxNameBytes : Nat := 255

/-- The greatest number of bytes in a path. -/
def maxPathBytes : Nat := 4095

/-- Where one more name leads from a directory. -/
def enter (t : FileTree) (names : List String) (name : String) : Except FileError Place :=
  if name = "" ∨ name = "." then .ok (.directory names)
  else if name = ".." then .ok (.directory names.dropLast)
  else if maxNameBytes < name.utf8ByteSize then .error .nameTooLong
  else
    match t.entry? (names ++ [name]) with
    | some .directory => .ok (.directory (names ++ [name]))
    | some (.file content) => .ok (.file (names ++ [name]) content)
    | none => .ok (.vacant (names ++ [name]))

/-- Follows names from a place. -/
def follow (t : FileTree) : Place → List String → Except FileError Place
  | place, [] => .ok place
  | .directory names, name :: rest =>
    match t.enter names name with
    | .error e => .error e
    | .ok place => follow t place rest
  | .file _ _, _ :: _ => .error .notDirectory
  | .vacant names, name :: rest =>
    if (name :: rest).all (·.isEmpty) then .ok (.vacant names) else .error .notFound

/-- The names of a path. -/
def namesOf (path : String) : List String := (path.splitOn "/")

/-- Where a path starts from. -/
def startOf (t : FileTree) (path : String) : Place :=
  .directory (if isAbsolutePath path then [] else t.workingDirectory)

/-- Whether a path can be handed to the system at all. -/
def checkPath (path : String) : Except FileError Unit :=
  if path.toList.contains '\x00' then .error .nulInName
  else if maxPathBytes < path.utf8ByteSize then .error .nameTooLong
  else if path.isEmpty then .error .notFound
  else .ok ()

/-- Where a path leads. -/
def locate (t : FileTree) (path : String) : Except FileError Place := do
  checkPath path
  t.follow (t.startOf path) (namesOf path)

/-- The text of a file. -/
def readText (t : FileTree) (path : String) : Except FileError String := do
  match ← t.locate path with
  | .directory _ => throw .isDirectory
  | .vacant _ => throw .notFound
  | .file _ content =>
    match String.fromUTF8? content with
    | some text => return text
    | none => throw .notText

/-- Writes a file, in place of one that is there. -/
def writeText (t : FileTree) (path text : String) : Except FileError FileTree := do
  match ← t.locate path with
  | .directory _ => throw .isDirectory
  | .file names _ | .vacant names => return t.put names (.file text.toUTF8)

/-- Goes along names from a directory and makes the directories that are missing. -/
def makeFrom (t : FileTree) (names : List String) : List String → Except FileError FileTree
  | [] => .ok t
  | name :: rest =>
    match t.enter names name with
    | .error e => .error e
    | .ok (.directory names) => makeFrom t names rest
    | .ok (.file _ _) => .error (if rest.isEmpty then .exists else .notDirectory)
    | .ok (.vacant names) => makeFrom (t.put names .directory) names rest

/-- Makes a directory and those around it, as far as they are missing. -/
def makeDirectories (t : FileTree) (path : String) : Except FileError FileTree :=
  if path.isEmpty then .ok t
  else do
    checkPath path
    t.makeFrom (if isAbsolutePath path then [] else t.workingDirectory) (namesOf path)

/-- The names in a directory, with the texts of the files; sorted. Nothing for what is no directory. -/
def list (t : FileTree) (path : String) : List (String × Option String) :=
  match t.locate path with
  | .ok (.directory names) =>
    let inside := t.entries.filterMap fun (n, entry) =>
      match n.getLast? with
      | some last =>
        if n.dropLast = names then
          match entry with
          | .directory => some (last, none)
          | .file content => some (last, String.fromUTF8? content)
        else none
      | none => none
    inside.mergeSort fun a b => a.1 ≤ b.1
  | _ => []

/-- Keeps the tree when an operation fails. -/
def attempt (change : FileTree → Except FileError FileTree) : StateM FileTree (Except FileError Unit) :=
  fun t =>
    match change t with
    | .ok t => (.ok (), t)
    | .error e => (.error e, t)

instance : FileAccess (StateM FileTree) where
  readText path := fun t => (t.readText path, t)
  makeDirectories path := attempt (·.makeDirectories path)
  writeText path text := attempt (·.writeText path text)

end FileTree

end Dataflow
