import Dataflow.Run.Node
/-!
# Terminal outputs

The outputs of a run are those that no connection reads, under the text of their endpoint.
-/

namespace Dataflow.Graph

/-- Adds the outputs of one node that no connection reads. -/
def addTerminal (g : Graph) (terminal : SortedMap Json) (id : String) (outputs : PortValues) :
    SortedMap Json :=
  outputs.entries.foldl (fun terminal (port, value) =>
    if g.isConsumed id port then terminal
    else terminal.insert (Endpoint.text ⟨id, port⟩) value) terminal

/-- The outputs that no connection reads. -/
def terminalOutputs (g : Graph) (results : Results) : SortedMap Json :=
  results.entries.foldl (fun terminal (id, outputs) => g.addTerminal terminal id outputs) ∅

end Dataflow.Graph
