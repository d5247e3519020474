import Dataflow.Graph.Basic
/-!
# Whether a graph hangs together

Every connection and every declared entry point must name declared nodes. `Graph.problems`
lists all violations, those of connections first.
-/

namespace Dataflow

/-- A reference to a node that is not declared. -/
inductive GraphProblem where
  | unknownEndpoint (connection missing : String)
  | unknownEntryPoint (id : String)
deriving DecidableEq

/-- The message of a problem. -/
def GraphProblem.message : GraphProblem → String
  | .unknownEndpoint connection missing =>
    s!"Connection '{connection}' references node '{missing}' which does not exist"
  | .unknownEntryPoint id => s!"Entry point '{id}' does not exist"

namespace Graph

/-- Whether a node with this id is declared. -/
def declares (g : Graph) (id : String) : Bool := g.nodes.contains id

/-- The undeclared ends of a connection. -/
def connectionProblems (g : Graph) (c : Connection) : List GraphProblem :=
  ([c.source.node, c.target.node].filter fun id => !g.declares id).map
    (.unknownEndpoint c.text)

/-- All references to undeclared nodes; an entry point is reported once. -/
def problems (g : Graph) : List GraphProblem :=
  g.connections.flatMap g.connectionProblems ++
    ((g.declaredEntries.filter fun id => !g.declares id).eraseDups).map .unknownEntryPoint

theorem declares_iff {g : Graph} {id : String} : g.declares id ↔ id ∈ g.ids :=
  OrderedMap.contains_iff

theorem connectionProblems_eq_nil_iff {g : Graph} {c : Connection} :
    g.connectionProblems c = [] ↔ c.source.node ∈ g.ids ∧ c.target.node ∈ g.ids := by
  simp [connectionProblems, ← declares_iff]

/-- A graph has no problems when all that it refers to is declared. -/
theorem problems_eq_nil_iff {g : Graph} :
    g.problems = [] ↔ (∀ c ∈ g.connections, c.source.node ∈ g.ids ∧ c.target.node ∈ g.ids) ∧
      ∀ id ∈ g.declaredEntries, id ∈ g.ids := by
  have hentries : ((g.declaredEntries.filter fun id => !g.declares id).eraseDups) = [] ↔
      ∀ id ∈ g.declaredEntries, id ∈ g.ids := by
    simp [List.eq_nil_iff_forall_not_mem, List.mem_eraseDups, ← declares_iff]
  rw [problems, List.append_eq_nil_iff, List.flatMap_eq_nil_iff, List.map_eq_nil_iff, hentries]
  simp only [connectionProblems_eq_nil_iff]

end Graph

end Dataflow
