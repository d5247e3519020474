import Dataflow.Proofs.Engine.Run
import Dataflow.Proofs.Graph.Grammar
import Dataflow.Proofs.Graph.Parser
import Dataflow.Proofs.Plugin.Builtin
import Dataflow.Proofs.Run.Typed
/-!
# Well-typed graphs succeed

An engine runs a well-typed graph without cycles to its end (`Engine.run_wellTyped`). A graph that is
read from a text and uses the builtin plugin is well typed when its parameters validate and its ports
are fed (`Graph.BuiltinNode.typed`): the literals of a text are all readable.
-/

namespace Dataflow

open Relation Session

namespace Graph

variable {g : Graph}

theorem Literal.readable (l : Literal) : l.value.Readable := by
  cases l with
  | integer n => exact Json.readable_int n
  | text s => rintro _ ⟨⟩
  | truth b => rintro _ ⟨⟩

/-- The node is one that the builtin plugin declares. What it has as parameters at declared ports
validates, and a declared port that has no parameter is fed. -/
structure BuiltinNode (g : Graph) (node : Node) (d : NodeDeclaration) : Prop where
  plugin : node.plugin = Builtin.pluginName
  declared : Builtin.declaration.nodes.get? node.type = some d
  parameters : ∀ port type value, d.inputs.get? port = some type → node.parameters.get? port = some value →
    Builtin.plugin.scope.validates value type = true
  fed : ∀ port ∈ d.inputs.keys, port ∈ node.parameters.keys ∨ ∃ c ∈ g.connections, c.target = ⟨node.id, port⟩

theorem BuiltinNode.typed {node : Node} {d : NodeDeclaration} (h : g.BuiltinNode node d) {r : Registry}
    (hr : r.get? Builtin.pluginName = some Builtin.plugin)
    (hliteral : ∀ p ∈ node.parameters.entries, ∃ l : Literal, p.2 = l.value) :
    g.TypedNode r Builtin.Allows node Builtin.plugin d where
  plugin := h.plugin ▸ hr
  name := h.plugin.symm
  keeps := Builtin.keeps
  declared := h.declared
  parameters port type value htype hm := by
    obtain ⟨l, hl : value = l.value⟩ := hliteral _ hm
    rw [h.plugin, Builtin.allows_qualify]
    exact ⟨h.parameters port type value htype (OrderedMap.mem_entries_iff.1 hm), hl ▸ l.readable⟩
  fed port type htype := by
    refine (h.fed port (OrderedMap.mem_keys_iff.2 ⟨type, htype⟩)).imp_left fun hm => ?_
    obtain ⟨value, hget⟩ := OrderedMap.mem_keys_iff.1 hm
    exact ⟨value, OrderedMap.mem_of_get? hget⟩

end Graph

namespace Engine

variable {e : Engine} {g : Graph}

theorem runPrepared_ok {order : List String} {s : Session}
    (h : ∀ s, ∃ results, (e.config.strategy.run e.registry g order e.arrangement s).1 = .ok results) :
    ∃ outputs, (e.runPrepared g order s).1 = .ok outputs := by
  unfold runPrepared
  simp only [bind_apply]
  generalize (clock _).2 = s'
  obtain ⟨results, hrun⟩ := h s'
  rw [hrun]
  exact ⟨_, rfl⟩

/-- A well-typed graph in which nothing is missing and no node feeds itself runs to its end. -/
theorem run_wellTyped {allows : String → Json → Prop} (h : g.WellTyped e.registry allows) (hp : g.problems = [])
    (hc : ∀ id ∈ g.ids, ¬ TransGen g.Joins id id) (s : Session) : ∃ outputs, (e.run g s).1 = .ok outputs := by
  obtain ⟨order, horder⟩ := Graph.executionOrder_of_acyclic hp hc
  have hplugins : ∀ plugin ∈ g.referencedPlugins, e.registry.contains plugin := by
    intro plugin hm
    simp only [Graph.referencedPlugins, List.mem_eraseDups, OrderedMap.values, List.mem_map] at hm
    obtain ⟨_, ⟨⟨id, node⟩, hm, rfl⟩, rfl⟩ := hm
    obtain ⟨p, d, ht⟩ := h.node id node (OrderedMap.mem_entries_iff.1 hm)
    exact Option.isSome_iff_exists.2 ⟨p, ht.plugin⟩
  have hplan : g.plan e.registry = .ok order := plan_eq_ok_iff.2 ⟨hp, hplugins, horder⟩
  unfold run
  rw [bind_apply, prepare_fst, hplan]
  exact runPrepared_ok fun s => Strategy.run_succeeds h hp (Graph.executionOrder_perm hp horder)
    (Graph.executionOrder_topological horder).forward e.config.strategy e.arrangement s

/-- A graph over the builtin plugin that is read from a text does not fail, whatever the engine's
strategy: if all references are declared, nothing runs in circles, no connection is warned of, and
every declared input port has a parameter of its type or a connection, then its run is a success. -/
theorem execute_builtin_succeeds {source : String} (hsource : Graph.parse source = .ok g)
    (hbuiltin : e.registry.get? Builtin.pluginName = some Builtin.plugin)
    (hnodes : ∀ node ∈ g.nodes.values, ∃ d, g.BuiltinNode node d) (hp : g.problems = [])
    (hc : ∀ id, ¬ TransGen g.Joins id id) (hw : g.wiringWarnings e.registry = []) (s : Session) :
    (e.execute g s).1.status = .success := by
  have ht : g.WellTyped e.registry Builtin.Allows := {
    keyed := Graph.parse_keyedById hsource
    wiring := hw
    node := fun id node hnode => by
      obtain ⟨d, hd⟩ := hnodes node (List.mem_map_of_mem (OrderedMap.mem_of_get? hnode))
      exact ⟨Builtin.plugin, d, hd.typed hbuiltin (Graph.parse_parameters hsource hnode)⟩ }
  rw [execute_envelope, Envelope.ofResult_status]
  exact run_wellTyped ht hp (fun id _ => hc id) s

/-- A trigger that is fed twice and a number that is fixed although a clock feeds it. -/
def fanIn : String :=
  "-- graph fan
  nodes \x7b s: basic.Start t: basic.GetTimestamp e: basic.IsEven \x7b number = 4 \x7d \x7d
  data \x7b s.signal -> t.trigger t.timestamp -> e.number s.signal -> e.trigger t.done -> e.trigger \x7d
  --"

/-- The graph that `fanIn` describes. -/
def fanInGraph : Graph :=
  let nodes := (((Graph.named "fan").addNode (.named "s" "basic" "Start")).addNode
    (.named "t" "basic" "GetTimestamp")).addNode ((Node.named "e" "basic" "IsEven").withParameter "number" (.int 4))
  (((nodes.connect ⟨⟨"s", "signal"⟩, ⟨"t", "trigger"⟩, .data⟩).connect
    ⟨⟨"t", "timestamp"⟩, ⟨"e", "number"⟩, .data⟩).connect ⟨⟨"s", "signal"⟩, ⟨"e", "trigger"⟩, .data⟩).connect
    ⟨⟨"t", "done"⟩, ⟨"e", "trigger"⟩, .data⟩

set_option maxRecDepth 4000 in
theorem execute_builtin_succeeds_fanIn :
    let e : Engine := { Engine.new {} Builtin.loader with registry := ⟨SortedMap.empty.insert "basic" Builtin.plugin⟩ }
    let byTiers : Engine := { e with config.strategy := .levelByLevel, arrangement := .backwards }
    Graph.parse fanIn = .ok fanInGraph ∧ (∀ node ∈ fanInGraph.nodes.values, ∃ d, fanInGraph.BuiltinNode node d) ∧
      fanInGraph.wiringWarnings e.registry = [] ∧
      ∀ s, (e.execute fanInGraph s).1.status = .success ∧ (byTiers.execute fanInGraph s).1.status = .success := by
  intro e byTiers
  have hparse : Graph.parse fanIn = .ok fanInGraph := by cbv
  have hbuiltin : e.registry.get? Builtin.pluginName = some Builtin.plugin := rfl
  have hnodes : ∀ node ∈ fanInGraph.nodes.values, ∃ d, fanInGraph.BuiltinNode node d := by
    intro node hm
    have hvalues : fanInGraph.nodes.values = [.named "s" "basic" "Start", .named "t" "basic" "GetTimestamp",
      (Node.named "e" "basic" "IsEven").withParameter "number" (.int 4)] := rfl
    rw [hvalues] at hm
    simp only [List.mem_cons, List.not_mem_nil, or_false] at hm
    rcases hm with rfl | rfl | rfl
    · exact ⟨_, rfl, rfl, by rintro port type value - ⟨⟩, by decide⟩
    · exact ⟨_, rfl, rfl, by rintro port type value - ⟨⟩, by decide⟩
    · refine ⟨_, rfl, rfl, fun port type value htype hvalue => ?_, by decide⟩
      unfold Node.withParameter at hvalue
      rw [OrderedMap.get?_insert] at hvalue
      split at hvalue
      · rename_i hport
        subst hport
        cases htype
        cases hvalue
        exact Builtin.validatesWithin_shape .integer (by simp [Builtin.types]) _ _
      · cases hvalue
  have hp : fanInGraph.problems = [] := by decide
  have horder : fanInGraph.executionOrder = .ok ["s", "t", "e"] := by cbv
  have hw : fanInGraph.wiringWarnings e.registry = [] := by decide
  have hc := Graph.acyclic_of_executionOrder hp horder
  refine ⟨hparse, hnodes, hw, fun s => ⟨?_, ?_⟩⟩
  · exact execute_builtin_succeeds hparse hbuiltin hnodes hp hc hw s
  · exact execute_builtin_succeeds (e := byTiers) hparse hbuiltin hnodes hp hc hw s

end Engine

end Dataflow
