import Dataflow.Graph.Basic
import Dataflow.Registry.Basic
/-!
# Whether connections fit the declarations

`Graph.wiringWarnings` compares the connections of a graph with what the registered plugins
declare about their nodes: a port may be undeclared, or the types of the two ports may
differ. Connections with nodes that no registered plugin declares are passed over.
-/

namespace Dataflow

/-- A connection that does not fit the declarations. -/
inductive WiringWarning where
  | undeclaredOutput (connection nodeType : String)
  | undeclaredInput (connection nodeType : String)
  | typeMismatch (connection outputType inputType : String)
deriving DecidableEq

/-- The message of a warning. -/
def WiringWarning.message : WiringWarning → String
  | .undeclaredOutput connection nodeType =>
    s!"Connection '{connection}' reads an output not declared by node type '{nodeType}'"
  | .undeclaredInput connection nodeType =>
    s!"Connection '{connection}' feeds an input not declared by node type '{nodeType}'"
  | .typeMismatch connection outputType inputType =>
    s!"Connection '{connection}' joins output type '{outputType}' to input type '{inputType}'"

/-- A type name as seen from outside the plugin that wrote it. -/
def qualify (plugin type : String) : String :=
  match splitQualified type with
  | (some _, _) => type
  | (none, bare) => plugin ++ "." ++ bare

namespace Graph

/-- What is declared about the node of an instance. -/
def declarationOf? (g : Graph) (r : Registry) (id : String) : Option (Node × NodeDeclaration) :=
  (g.nodes.get? id).bind fun node =>
    (r.node? node.plugin node.type).map fun declaration => (node, declaration)

/-- The warning about one connection. -/
def wiringWarning? (g : Graph) (r : Registry) (c : Connection) : Option WiringWarning :=
  match g.declarationOf? r c.source.node, g.declarationOf? r c.target.node with
  | some (producer, produced), some (consumer, consumed) =>
    match produced.outputs.get? c.source.port, consumed.inputs.get? c.target.port with
    | none, _ => some (.undeclaredOutput c.text producer.type)
    | _, none => some (.undeclaredInput c.text consumer.type)
    | some outputType, some inputType =>
      let qualifiedOutput := qualify producer.plugin outputType
      let qualifiedInput := qualify consumer.plugin inputType
      if qualifiedOutput = qualifiedInput then none
      else some (.typeMismatch c.text qualifiedOutput qualifiedInput)
  | _, _ => none

/-- The warnings about all connections, in their order. -/
def wiringWarnings (g : Graph) (r : Registry) : List WiringWarning :=
  g.connections.filterMap (g.wiringWarning? r)

variable {g : Graph} {r : Registry}

theorem declarationOf?_eq_some_iff {id : String} {node : Node} {d : NodeDeclaration} :
    g.declarationOf? r id = some (node, d) ↔
      g.nodes.get? id = some node ∧ ∃ p, r.get? node.plugin = some p ∧ p.declaration.nodes.get? node.type = some d := by
  simp only [declarationOf?, Registry.node?, Option.bind_eq_some_iff, Option.map_eq_some_iff, Prod.mk.injEq]
  grind

/-- A connection without a warning joins two declared ports of one type. -/
theorem ports_of_no_warning {c : Connection} (h : g.wiringWarning? r c = none) {producer consumer : Node}
    {produced consumed : NodeDeclaration} (hsource : g.declarationOf? r c.source.node = some (producer, produced))
    (htarget : g.declarationOf? r c.target.node = some (consumer, consumed)) :
    ∃ output input, produced.outputs.get? c.source.port = some output ∧
      consumed.inputs.get? c.target.port = some input ∧
      qualify producer.plugin output = qualify consumer.plugin input := by
  unfold wiringWarning? at h
  simp only [hsource, htarget] at h
  cases houtput : produced.outputs.get? c.source.port with
  | none => simp [houtput] at h
  | some output =>
    cases hinput : consumed.inputs.get? c.target.port with
    | none => simp [houtput, hinput] at h
    | some input => exact ⟨output, input, rfl, rfl, by simpa [houtput, hinput] using h⟩

end Graph

end Dataflow
