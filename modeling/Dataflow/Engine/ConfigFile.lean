import Dataflow.Engine.Config
import Dataflow.File.Access
import Dataflow.Yaml.Value
/-!
# Configuration files

A configuration file is a YAML mapping. Fields that are not known are passed over, and those
that are left out or empty have their defaults.
-/

namespace Dataflow

/-- Why a configuration file could not be used. -/
inductive ConfigError where
  | unreadable (path : String) (error : FileError)
  | malformed (path : String) (error : Yaml.ReadError)
deriving DecidableEq

/-- The message of a configuration error. -/
def ConfigError.message : ConfigError → String
  | .unreadable path e => s!"Failed to read config file '{path}': {e.message}"
  | .malformed path e => s!"Failed to parse config file '{path}': {e.message}"

namespace Config

open Yaml.Document (readField)

/-- Reads the name of a strategy. -/
def readStrategy (d : Yaml.Document) (n : Yaml.Node) : Except Yaml.ReadError Strategy := do
  match Strategy.ofName? (← d.choice n) with
  | some strategy => return strategy
  | none => throw (.expected "the name of a strategy")

/-- Reads the limit of concurrency out of the options. -/
def readOptions (d : Yaml.Document) (n : Yaml.Node) : Except Yaml.ReadError (Option Nat) := do
  readField (← d.fields n) "max_concurrency" none (d.optional d.nat)

/-- The configuration in a document. -/
def ofDocument (d : Yaml.Document) : Except Yaml.ReadError Config := do
  let fields ← d.fields d.root
  return {
    strategy := ← readField fields "strategy" .sequential (readStrategy d)
    maxConcurrency? := ← readField fields "executor_options" none (readOptions d)
    plugins := ← readField fields "plugins" [] d.texts
    manifestDirectory? := ← readField fields "anima_output" none (d.optional d.text) }

/-- The configuration in a text. -/
def parse (text : String) : Except Yaml.ReadError Config :=
  match Yaml.Document.parse text with
  | .error fault => .error (.notYaml fault)
  | .ok d => ofDocument d

example : (parse "plugins: [a, 'b c']\nstrategy: level_by_level\n").toOption =
    some { strategy := .levelByLevel, plugins := ["a", "b c"] } := by decide +kernel
example : (parse "executor_options:\n  max_concurrency: 0x10").toOption =
    some { maxConcurrency? := some 16 } := by decide +kernel
example : (parse "").toOption = some {} := by decide +kernel
example : (parse "plugins: [a").toOption = none := by decide +kernel

/-- The configuration in a file. -/
def load {m : Type → Type} [Monad m] [FileAccess m] (path : String) :
    m (Except ConfigError Config) := do
  match ← FileAccess.readText path with
  | .error e => return .error (.unreadable path e)
  | .ok text => return (parse text).mapError (.malformed path)

end Config

end Dataflow
