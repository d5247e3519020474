import Dataflow.File.Access
import Dataflow.Graph.Validation
import Dataflow.Plugin.Basic
import Dataflow.Token.Basic
/-!
# How a run fails

Every failure ends the run of a graph. Its message names the node, plugin, type or place that
caused it.
-/

namespace Dataflow

/-- Why a run failed. -/
inductive RunError where
  | parse (error : ParseError)
  | plugin (error : PluginError)
  /-- A node instance failed. -/
  | nodeFailed (id : String) (error : PluginError)
  | cycle (node : String) (path : List String)
  /-- An execution order lists a node that the graph does not declare. -/
  | undeclaredNode (id : String)
  | invalidGraph (problems : List GraphProblem)
  | file (path : String) (error : FileError)
  /-- A node was stopped before it came to an end. -/
  | interrupted (id reason : String)
deriving DecidableEq

/-- The message of a failure. -/
def RunError.message : RunError → String
  | .parse e => e.message
  | .plugin e => e.message
  | .nodeFailed id e => s!"Node '{id}' failed: {e.message}"
  | .cycle node path =>
    "Circular dependency detected at node '" ++ node ++ "': " ++ String.intercalate " -> " path
  | .undeclaredNode id => s!"Node '{id}' is referenced but not declared"
  | .invalidGraph problems =>
    "Invalid graph: " ++ String.intercalate "; " (problems.map GraphProblem.message)
  | .file path e => s!"Failed to read graph '{path}': {e.message}"
  | .interrupted id reason => s!"Node task for '{id}' did not complete: {reason}"

end Dataflow
