import Dataflow.Json.Parser
import Dataflow.Json.Printer
/-!
# Result envelopes

What a caller gets from a run: whether it succeeded, and a JSON text with the terminal outputs
or with the error message under the key `error`.
-/

namespace Dataflow

/-- Whether a run succeeded. -/
inductive RunStatus where
  | success
  | error
deriving DecidableEq

/-- The name of a status. -/
def RunStatus.name : RunStatus → String
  | .success => "Success"
  | .error => "Error"

/-- The status with this name. -/
def RunStatus.ofName? (name : String) : Option RunStatus :=
  if name = "Success" then some .success
  else if name = "Error" then some .error
  else none

/-- The result of a run. -/
structure Envelope where
  status : RunStatus
  /-- A JSON text. -/
  outputs : String
deriving DecidableEq

namespace Envelope

/-- The key of the error message. -/
def errorKey : String := "error"

/-- The envelope of a successful run. -/
def success (outputs : SortedMap Json) : Envelope := ⟨.success, (Json.ofMap outputs).compress⟩

/-- The envelope of a failed run. -/
def failure (message : String) : Envelope :=
  ⟨.error, (Json.obj [(errorKey, .str message)]).compress⟩

/-- Whether the run succeeded. -/
def isSuccess (e : Envelope) : Bool := e.status = .success

/-- The outputs as values, if the text says an object. -/
def parsedOutputs? (e : Envelope) : Option (SortedMap Json) :=
  (Json.parse? e.outputs).bind Json.valueMap?

/-- The error message of a failed run. -/
def errorMessage? (e : Envelope) : Option String :=
  if e.isSuccess then none
  else e.parsedOutputs?.bind fun outputs => (outputs.get? errorKey).bind Json.str?

end Envelope

end Dataflow
