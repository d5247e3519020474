import Dataflow.Document.Record
import Dataflow.Engine.Config
import Dataflow.Engine.Envelope
/-!
# Envelopes and configurations as JSON documents

Fields are read and written as `Dataflow.Document.Record` says. An envelope has all of its fields, a
configuration may leave out any.
-/

namespace Dataflow

open Document

namespace Envelope

/-- The document of an envelope. -/
def toJson (e : Envelope) : Json :=
  .obj [("status", .str e.status.name), ("outputs", .str e.outputs)]

/-- The envelope of a document. -/
def ofJson? (j : Json) : Option Envelope := do
  let r ← record? ["status", "outputs"] j
  return ⟨← r.required "status" (choice? RunStatus.ofName?), ← r.required "outputs" Json.str?⟩

end Envelope

namespace Config

/-- The document of a configuration. -/
def toJson (c : Config) : Json :=
  .obj [("strategy", .str c.strategy.name),
    ("executor_options", .obj [("max_concurrency", ofOption Json.count c.maxConcurrency?)]),
    ("plugins", ofList ofText c.plugins),
    ("anima_output", ofOption ofText c.manifestDirectory?)]

/-- The limit of concurrency that a document sets, if it sets one. -/
def concurrencyOfJson? (j : Json) : Option (Option Nat) := do
  let r ← record? ["max_concurrency"] j
  r.withDefault "max_concurrency" none (nullable? nat?)

/-- The configuration of a document. Every field may be left out. -/
def ofJson? (j : Json) : Option Config := do
  let r ← record? ["strategy", "executor_options", "plugins", "anima_output"] j
  return {
    strategy := ← r.withDefault "strategy" .sequential (choice? Strategy.ofName?)
    maxConcurrency? := ← r.withDefault "executor_options" none concurrencyOfJson?
    plugins := ← r.withDefault "plugins" [] (list? Json.str?)
    manifestDirectory? := ← r.withDefault "anima_output" none (nullable? Json.str?) }

end Config

end Dataflow
