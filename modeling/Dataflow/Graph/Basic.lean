import Dataflow.Json.Basic
import Dataflow.OrderedMap
/-!
# Graphs

A graph is a set of node instances whose ports are wired together by connections. What a
connection means does not depend on its kind. A graph also names the plugins it imports and
may name the nodes to start from.
-/

namespace Dataflow

/-- An instance of a plugin's node within a graph. -/
structure Node where
  /-- The name of the instance, unique in its graph. -/
  id : String
  plugin : String
  /-- The name of the node that the plugin declares. -/
  type : String
  /-- Fixed inputs. They win over what connections bring to the same port. -/
  parameters : OrderedMap Json

namespace Node

/-- An instance without parameters. -/
def named (id plugin type : String) : Node := ⟨id, plugin, type, ∅⟩

/-- Fixes the input at a port. -/
def withParameter (n : Node) (port : String) (value : Json) : Node :=
  { n with parameters := n.parameters.insert port value }

end Node

/-- A port of a node instance. -/
structure Endpoint where
  node : String
  port : String
deriving DecidableEq

/-- The text of an endpoint. -/
def Endpoint.text (e : Endpoint) : String := e.node ++ "." ++ e.port

/-- Which block of the graph description declared a connection. -/
inductive ConnectionKind where
  | data
  | control
deriving DecidableEq, Inhabited

/-- The name of the kind. -/
def ConnectionKind.name : ConnectionKind → String
  | .data => "data"
  | .control => "control"

/-- The output port `source` feeds the input port `target`. -/
structure Connection where
  source : Endpoint
  target : Endpoint
  kind : ConnectionKind
deriving DecidableEq

/-- The text of a connection. -/
def Connection.text (c : Connection) : String := c.source.text ++ " -> " ++ c.target.text

/-- Node instances, keyed by id and in order, and the connections between their ports. -/
structure Graph where
  name : String
  /-- The declared ids to start from, in order. -/
  declaredEntries : List String
  nodes : OrderedMap Node
  connections : List Connection
  /-- The imported plugins. -/
  imports : List String

namespace Graph

/-- A graph without nodes. -/
def named (name : String) : Graph := ⟨name, [], ∅, [], []⟩

/-- Adds a node under its id, in the place of one that has the id already. -/
def addNode (g : Graph) (n : Node) : Graph := { g with nodes := g.nodes.insert n.id n }

/-- Adds a connection. -/
def connect (g : Graph) (c : Connection) : Graph :=
  { g with connections := g.connections ++ [c] }

/-- Declares one more node to start from. -/
def addEntry (g : Graph) (id : String) : Graph :=
  { g with declaredEntries := g.declaredEntries ++ [id] }

/-- The ids of the declared nodes, in order. -/
def ids (g : Graph) : List String := g.nodes.keys

theorem nodup_ids (g : Graph) : g.ids.Nodup := g.nodes.nodup

/-- Every node stands under its own id. -/
def KeyedById (g : Graph) : Prop := ∀ e ∈ g.nodes.entries, e.2.id = e.1

/-- Some connection leads from `a` to `b`. -/
def Joins (g : Graph) (a b : String) : Prop :=
  ∃ c ∈ g.connections, c.source.node = a ∧ c.target.node = b

/-- The ids to start from: the declared ones, or else every node without an incoming connection. -/
def entryPoints (g : Graph) : List String :=
  if g.declaredEntries.isEmpty then
    g.ids.filter fun id => !g.connections.any (·.target.node = id)
  else g.declaredEntries

/-- The plugins of the nodes, each once, in the order of their first use. -/
def referencedPlugins (g : Graph) : List String := (g.nodes.values.map Node.plugin).eraseDups

/-- The connections that feed a node, in order. -/
def incoming (g : Graph) (id : String) : List Connection :=
  g.connections.filter (·.target.node = id)

/-- Whether some connection reads this output of the node. -/
def isConsumed (g : Graph) (id port : String) : Bool :=
  g.connections.any fun c => c.source.node = id ∧ c.source.port = port

end Graph

end Dataflow
