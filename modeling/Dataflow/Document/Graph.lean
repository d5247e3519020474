import Dataflow.Document.Record
import Dataflow.Graph.Basic
/-!
# Graphs as JSON documents

Fields are read and written as `Dataflow.Document.Record` says. The parameters of a node are values,
and what stands around them in the document counts for how deep they nest.
-/

namespace Dataflow

open Document

namespace Node

/-- The document of a node. -/
def toJson (n : Node) : Json :=
  .obj [("id", .str n.id), ("type", .str n.type), ("plugin", .str n.plugin),
    ("parameters", ofMap (fun v => v) n.parameters)]

/-- How deep a parameter nests at most: it stands within four containers of its document. -/
def maxParameterDepth : Nat := Json.maxDepth - 4

/-- The node of a document. -/
def ofJson? (j : Json) : Option Node := do
  let r ← record? ["id", "type", "plugin", "parameters"] j
  return {
    id := ← r.required "id" Json.str?
    type := ← r.required "type" Json.str?
    plugin := ← r.required "plugin" Json.str?
    parameters := ← r.withDefault "parameters" ∅ (map? (Json.valueWithin maxParameterDepth)) }

end Node

namespace Endpoint

/-- The document of an endpoint. -/
def toJson (e : Endpoint) : Json := .obj [("node", .str e.node), ("port", .str e.port)]

/-- The endpoint of a document. -/
def ofJson? (j : Json) : Option Endpoint := do
  let r ← record? ["node", "port"] j
  return ⟨← r.required "node" Json.str?, ← r.required "port" Json.str?⟩

end Endpoint

/-- The kind with this name. -/
def ConnectionKind.ofName? (name : String) : Option ConnectionKind :=
  if name = "data" then some .data
  else if name = "control" then some .control
  else none

namespace Connection

/-- The document of a connection. -/
def toJson (c : Connection) : Json :=
  .obj [("from", c.source.toJson), ("to", c.target.toJson), ("kind", .str c.kind.name)]

/-- The connection of a document. -/
def ofJson? (j : Json) : Option Connection := do
  let r ← record? ["from", "to", "kind"] j
  return {
    source := ← r.required "from" Endpoint.ofJson?
    target := ← r.required "to" Endpoint.ofJson?
    kind := ← r.withDefault "kind" .data (choice? ConnectionKind.ofName?) }

end Connection

namespace Graph

/-- The document of a graph. -/
def toJson (g : Graph) : Json :=
  .obj [("nodes", ofMap Node.toJson g.nodes),
    ("connections", ofList Connection.toJson g.connections),
    ("imports", ofList ofText g.imports),
    ("metadata", .obj [("name", .str g.name), ("entry_points", ofList ofText g.declaredEntries)])]

/-- The graph of a document. -/
def ofJson? (j : Json) : Option Graph := do
  let r ← record? ["nodes", "connections", "imports", "metadata"] j
  let metadata ← r.required "metadata" (record? ["name", "entry_points"])
  return {
    nodes := ← r.required "nodes" (map? Node.ofJson?)
    connections := ← r.required "connections" (list? Connection.ofJson?)
    imports := ← r.required "imports" (list? Json.str?)
    name := ← metadata.required "name" Json.str?
    declaredEntries := ← metadata.withDefault "entry_points" [] (list? Json.str?) }

end Graph

end Dataflow
