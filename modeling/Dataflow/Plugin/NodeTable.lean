import Dataflow.Plugin.Basic
import Dataflow.Text.Quoted
/-!
# Node tables

A plugin keeps the implementations of its nodes in a table by name and runs a node by
looking it up.
-/

namespace Dataflow

/-- The implementation of a node. -/
structure NodeBody where
  name : String
  run : PortValues → NodeRun

/-- Implementations by node name. -/
structure NodeTable where
  bodies : SortedMap NodeBody

namespace NodeTable

/-- The table without nodes. -/
def empty : NodeTable := ⟨∅⟩

/-- Adds an implementation under its own name, instead of one that had it. -/
def add (t : NodeTable) (body : NodeBody) : NodeTable := ⟨t.bodies.insert body.name body⟩

/-- The table of some implementations. -/
def ofList (bodies : List NodeBody) : NodeTable := bodies.foldl add empty

/-- The implementation of a node. -/
def get? (t : NodeTable) (node : String) : Option NodeBody := t.bodies.get? node

/-- Whether the table implements a node. -/
def contains (t : NodeTable) (node : String) : Bool := t.bodies.contains node

/-- How many nodes the table implements. -/
def size (t : NodeTable) : Nat := t.bodies.size

/-- Whether the table implements nothing. -/
def isEmpty (t : NodeTable) : Bool := t.bodies.isEmpty

/-- Runs a node on behalf of the named plugin. -/
def dispatch (t : NodeTable) (plugin node : String) (inputs : PortValues) : NodeRun :=
  match t.get? node with
  | some body => body.run inputs
  | none => pure (.error (.unknownNode plugin node))

/-- The table on one line, for diagnosis. -/
def debugText (t : NodeTable) : String :=
  "NodeTable \x7b node_count: " ++ toString t.size ++
    ", node_names: " ++ Text.quotedList t.bodies.keys ++ " \x7d"

end NodeTable

end Dataflow
