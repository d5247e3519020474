import Dataflow.CommandLine
import Dataflow.Plugin.Builtin
import Std.Time.DateTime.Timestamp
/-!
# The program

Runs the command line on the files, the clock and the random numbers of the system.
-/

namespace Dataflow

/-- The file error for an error of the system. -/
def FileError.ofSystem : IO.Error → FileError
  | .noFileOrDirectory .. => .notFound
  | .permissionDenied .. => .permissionDenied
  | .alreadyExists .. => .exists
  | .inappropriateType _ 20 _ => .notDirectory
  | .inappropriateType _ 21 _ => .isDirectory
  | e => .other (toString e)

/-- Gives the error of a file operation as a value. -/
def attemptFile {α : Type} (x : IO α) : IO (Except FileError α) := do
  match ← x.toBaseIO with
  | .ok a => return .ok a
  | .error e => return .error (FileError.ofSystem e)

instance : FileAccess IO where
  readText path := do
    match ← attemptFile (IO.FS.readBinFile path) with
    | .error e => return .error e
    | .ok bytes =>
      match String.fromUTF8? bytes with
      | some text => return .ok text
      | none => return .error .notText
  makeDirectories path := attemptFile (IO.FS.createDirAll path)
  writeText path text := attemptFile (IO.FS.writeFile path text)

/-- The time of the system, and identifiers from a random start. -/
def systemSupply : IO Supply := do
  let now ← Std.Time.Timestamp.now
  let bytes ← IO.getRandomBytes 16
  return {
    clock := Int64.ofInt now.toMillisecondsSinceUnixEpoch.toInt
    seed := bytes.data.foldl (fun n b => n * 256 + b.toNat) 0 }

end Dataflow

open Dataflow in
/-- Runs the program with its arguments. -/
def main (arguments : List String) : IO UInt32 := do
  let session := Session.ofSupply (← systemSupply)
  let (outcome, _) ← (runProgram Builtin.loader arguments : StateT Session IO _).run session
  IO.print outcome.output
  IO.eprint outcome.complaint
  return outcome.exitCode
