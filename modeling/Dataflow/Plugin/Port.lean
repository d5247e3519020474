import Dataflow.Plugin.Basic
/-!
# Reading input ports

How node implementations take their inputs: each accessor gives the value at a port in the shape
asked for, or fails with the node, the port and the shape.
-/

namespace Dataflow.PortValues

/-- The value at a port, read as `read?` reads it. -/
def requireAs {α : Type} (inputs : PortValues) (node port expected : String)
    (read? : Json → Option α) : Except PluginError α :=
  match (inputs.get? port).bind read? with
  | some a => .ok a
  | none => .error (.missingOrInvalidInput node port expected)

/-- The value at a port. -/
def require (inputs : PortValues) (node port : String) : Except PluginError Json :=
  requireAs inputs node port "a value" some

/-- The signed 64-bit integer at a port. -/
def requireInt (inputs : PortValues) (node port : String) : Except PluginError Int64 :=
  requireAs inputs node port "an integer" Json.int64?

/-- The truth value at a port. -/
def requireBool (inputs : PortValues) (node port : String) : Except PluginError Bool :=
  requireAs inputs node port "a boolean" Json.bool?

/-- The text at a port. -/
def requireStr (inputs : PortValues) (node port : String) : Except PluginError String :=
  requireAs inputs node port "a string" Json.str?

end Dataflow.PortValues
