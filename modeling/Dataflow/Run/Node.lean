import Dataflow.Run.Session
/-!
# Running a node of a graph

The inputs of a node come from the results of the nodes that feed it and from its parameters,
which win. A connection whose producer gave nothing at its port brings nothing.
-/

namespace Dataflow

/-- The outputs of the nodes that ran, by id. -/
abbrev Results := OrderedMap PortValues

/-- What a node did: its outputs, or why the run fails. -/
abbrev Outcome := Except RunError PortValues

/-- What the source of a connection gave. -/
def Results.valueAt? (results : Results) (e : Endpoint) : Option Json :=
  (results.get? e.node).bind (·.get? e.port)

/-- Brings the value at the source of a connection to its target. -/
def Results.carry (results : Results) (inputs : PortValues) (c : Connection) : PortValues :=
  match results.valueAt? c.source with
  | some value => inputs.insert c.target.port value
  | none => inputs

namespace Graph

/-- The inputs of a node: what its connections bring, in their order, and its parameters over it. -/
def gatherInputs (g : Graph) (node : Node) (results : Results) : PortValues :=
  ((g.incoming node.id).foldl results.carry ∅).overlay node.parameters.entries

/-- A declared node and its plugin. -/
def find (g : Graph) (r : Registry) (id : String) : Except RunError (Node × Plugin) :=
  match g.nodes.get? id with
  | none => .error (.undeclaredNode id)
  | some node =>
    match r.get? node.plugin with
    | none => .error (.plugin (.unknownPlugin node.plugin))
    | some plugin => .ok (node, plugin)

end Graph

/-- Runs a node instance and reports how it went. -/
def Node.run (node : Node) (plugin : Plugin) (inputs : PortValues) : SessionM Outcome := do
  Session.report (.nodeStarted node.id node.plugin node.type inputs.size)
  let start ← Session.clock
  match ← Session.call (some node.id) plugin node.type inputs with
  | .ok outputs =>
    Session.report (.nodeCompleted node.id outputs.size (← Session.elapsedSince start))
    return .ok outputs
  | .error e =>
    Session.report (.nodeFailed node.id e)
    return .error (.nodeFailed node.id e)

/-- Runs the node `id` of a graph on the results so far. -/
def Graph.runNode (g : Graph) (r : Registry) (results : Results) (id : String) :
    SessionM Outcome :=
  match g.find r id with
  | .error e => pure (.error e)
  | .ok (node, plugin) => node.run plugin (g.gatherInputs node results)

end Dataflow
