import Dataflow.Run.Node
/-!
# One node after the other

The plain way to run a graph: the nodes of an order one by one, until one fails.
-/

namespace Dataflow.Graph

/-- Goes on with the remaining nodes. -/
def runInOrderFrom (g : Graph) (r : Registry) (results : Results) :
    List String → SessionM (Except RunError Results)
  | [] => pure (.ok results)
  | id :: rest => do
    match ← g.runNode r results id with
    | .ok outputs => runInOrderFrom g r (results.insert id outputs) rest
    | .error e => return .error e

/-- Runs the nodes of `order` one by one. -/
def runInOrder (g : Graph) (r : Registry) (order : List String) :
    SessionM (Except RunError Results) :=
  g.runInOrderFrom r ∅ order

end Dataflow.Graph
