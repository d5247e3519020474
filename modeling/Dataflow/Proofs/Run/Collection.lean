import Dataflow.Proofs.Graph.Naming
import Dataflow.Proofs.Run.Terminal
/-!
# The terminal outputs of a graph that was read

Ports may have dots in them, so an endpoint cannot be told from its text alone. The nodes of a graph that was
read have none (`Graph.dot_not_mem_id`), so every output that no connection reads is collected under a text of
its own (`Graph.terminalOutputs_of_parse`).
-/

namespace Dataflow.Graph

/-- The outputs that no connection reads are collected, each under its own text, and nothing else is. -/
theorem terminalOutputs_of_parse {source : String} {g : Graph} (hg : parse source = .ok g) {results : Results}
    (hids : ∀ id ∈ results.keys, id ∈ g.ids) :
    (∀ key value, (g.terminalOutputs results).get? key = some value ↔
      ∃ e : Endpoint, e.node ++ "." ++ e.port = key ∧ results.valueAt? e = some value ∧
        ∀ c ∈ g.connections, c.source ≠ e) ∧
    (∀ e e' : Endpoint, (results.valueAt? e).isSome → (results.valueAt? e').isSome →
      e.node ++ "." ++ e.port = e'.node ++ "." ++ e'.port → e = e') ∧
    ∀ c ∈ g.connections, c.source.node ∈ results.keys →
      (g.terminalOutputs results).get? (c.source.node ++ "." ++ c.source.port) = none := by
  have hdot : ∀ id ∈ results.keys, '.' ∉ id.toList := fun id hid => dot_not_mem_id hg (hids id hid)
  have hnode : ∀ e, (results.valueAt? e).isSome → e.node ∈ results.keys := by
    intro e he
    obtain ⟨value, hvalue⟩ := Option.isSome_iff_exists.1 he
    obtain ⟨outputs, hresult, -⟩ := Option.bind_eq_some_iff.1 hvalue
    exact OrderedMap.mem_keys_iff.2 ⟨outputs, hresult⟩
  have hget : ∀ key value, (g.terminalOutputs results).get? key = some value ↔
      ∃ e : Endpoint, e.text = key ∧ results.valueAt? e = some value ∧ ∀ c ∈ g.connections, c.source ≠ e := by
    intro key value
    rw [get?_terminalOutputs (unambiguous_of_no_dot hdot)]
    simp only [unread?_eq_some_iff]
  refine ⟨hget, ?_, ?_⟩
  · intro e e' he he' htext
    exact Endpoint.text_injective (hdot _ (hnode e he)) (hdot _ (hnode e' he')) htext
  · intro c hc hsource
    apply Option.eq_none_iff_forall_ne_some.2
    intro value hvalue
    obtain ⟨e, htext, he, hunread⟩ := (hget _ value).1 hvalue
    have hsame : e = c.source :=
      Endpoint.text_injective (hdot _ (hnode e (by simp [he]))) (hdot _ hsource) htext
    exact hunread c hc hsame.symm

/-- One output feeds two ports, one of them twice. -/
def fanOut : String :=
  "-- graph fan nodes \x7b a: p.A b: p.B \x7d data \x7b a.x -> b.u a.x -> b.v a.x -> b.u \x7d --"

/-- Results with ports that no text could name. -/
def fanOutResults : Results :=
  .ofList [("a", .ofList [("x", .int 1), ("x.y", .int 2)]), ("b", .ofList [("x.y", .int 3)])]

set_option maxRecDepth 2000 in
theorem terminalOutputs_of_parse_fanOut :
    ∃ g, parse fanOut = .ok g ∧ (∀ id ∈ fanOutResults.keys, id ∈ g.ids) ∧
      (g.terminalOutputs fanOutResults).get? "a.x.y" = some (.int 2) ∧
      (g.terminalOutputs fanOutResults).get? "b.x.y" = some (.int 3) ∧
      (g.terminalOutputs fanOutResults).get? "a.x" = none := by
  have hread : (parse fanOut).map (fun g => (g.ids, g.connections)) =
      .ok (["a", "b"], [⟨⟨"a", "x"⟩, ⟨"b", "u"⟩, .data⟩, ⟨⟨"a", "x"⟩, ⟨"b", "v"⟩, .data⟩,
        ⟨⟨"a", "x"⟩, ⟨"b", "u"⟩, .data⟩]) := by cbv
  obtain ⟨g, hg, hparts⟩ := Except.map_eq_ok_iff.1 hread
  obtain ⟨hids, hconnections⟩ := Prod.mk.inj hparts
  have hkeys : ∀ id ∈ fanOutResults.keys, id ∈ g.ids := by
    rw [hids]
    decide
  obtain ⟨hget, -, hread⟩ := terminalOutputs_of_parse hg hkeys
  rw [hconnections] at hget hread
  refine ⟨g, hg, hkeys, ?_, ?_, hread _ List.mem_cons_self (by decide)⟩
  · exact (hget _ _).2 ⟨⟨"a", "x.y"⟩, by decide, rfl, by decide⟩
  · exact (hget _ _).2 ⟨⟨"b", "x.y"⟩, by decide, rfl, by decide⟩

end Dataflow.Graph
