/-!
# Files

What the engine needs from a file system, as a class: it reads texts, makes directories and
writes texts. Paths are texts with slashes.
-/

namespace Dataflow

/-- Why a file could not be read or written. -/
inductive FileError where
  | notFound
  | permissionDenied
  | exists
  | notDirectory
  | isDirectory
  | nameTooLong
  | nulInName
  | notText
  /-- Any other reason, in the words of the system. -/
  | other (reason : String)
deriving DecidableEq

/-- The message of a file error. -/
def FileError.message : FileError → String
  | .notFound => "No such file or directory (os error 2)"
  | .permissionDenied => "Permission denied (os error 13)"
  | .exists => "File exists (os error 17)"
  | .notDirectory => "Not a directory (os error 20)"
  | .isDirectory => "Is a directory (os error 21)"
  | .nameTooLong => "File name too long (os error 36)"
  | .nulInName => "file name contained an unexpected NUL byte"
  | .notText => "stream did not contain valid UTF-8"
  | .other reason => reason

/-- A file system that computations in `m` can use. -/
class FileAccess (m : Type → Type) where
  /-- The text of a file. -/
  readText : String → m (Except FileError String)
  /-- Makes a directory and those around it, as far as they are missing. -/
  makeDirectories : String → m (Except FileError Unit)
  /-- Writes a file, in place of one that is there. -/
  writeText : String → String → m (Except FileError Unit)

/-- Whether a path starts at the root. -/
def isAbsolutePath (path : String) : Bool := path.startsWith "/"

/-- The path of `name` within a directory; an absolute name stands for itself. -/
def joinPath (directory name : String) : String :=
  if isAbsolutePath name || directory.isEmpty then name
  else if directory.endsWith "/" then directory ++ name
  else directory ++ "/" ++ name

end Dataflow
