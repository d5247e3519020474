import Dataflow.Proofs.Schedule.Order
/-!
# Every node of an order comes from a source

A source is a declared node that no connection feeds. A graph that declares no node to start from is
started from its sources (`mem_entryPoints_iff`). Who goes back along connections from a node of an
execution order comes to ever earlier nodes, and so to a source at last (`Forward.exists_source`).
A graph in which every node is fed therefore has no order, but a cycle (`executionOrder_from_sources`).
-/

namespace Dataflow.Graph

open Relation

variable {g : Graph} {order : List String} {id : String}

/-- No connection leads to the node. -/
def Unfed (g : Graph) (id : String) : Prop := ∀ c ∈ g.connections, c.target.node ≠ id

/-- Where no node is declared to start from, those are the entry points that no connection feeds. -/
theorem mem_entryPoints_iff (h : g.declaredEntries = []) : id ∈ g.entryPoints ↔ id ∈ g.ids ∧ g.Unfed id := by
  simp [entryPoints, h, Unfed]

/-- A listed node can be reached from a listed one that nothing feeds, as long as the nodes that feed
listed nodes are listed too. -/
theorem Forward.exists_source (hf : g.Forward order)
    (hclosed : ∀ c ∈ g.connections, c.target.node ∈ order → c.source.node ∈ order) (hid : id ∈ order) :
    ∃ source ∈ order, g.Unfed source ∧ ReflTransGen g.Joins source id := by
  -- The way back ends, because each connection leads back to a lower place in the order.
  induction hplace : order.idxOf id using Nat.strong_induction_on generalizing id with
  | _ place ih =>
    by_cases hunfed : g.Unfed id
    · exact ⟨id, hid, hunfed, .refl⟩
    · simp only [Unfed, ne_eq, Classical.not_forall, Classical.not_not] at hunfed
      obtain ⟨c, hc, rfl⟩ := hunfed
      have hproducer : c.source.node ∈ order := hclosed c hc hid
      have hlt : order.idxOf c.source.node < place := hplace ▸ hf c hc hproducer hid
      obtain ⟨source, hsource, hfirst, hreach⟩ := ih _ hlt hproducer rfl
      exact ⟨source, hsource, hfirst, hreach.tail ⟨c, hc, rfl, rfl⟩⟩

/-- An order shows that every declared node can be reached from an entry point. -/
theorem exists_entryPoint_of_executionOrder (hp : g.problems = []) (hentries : g.declaredEntries = [])
    (h : g.executionOrder = .ok order) (hid : id ∈ g.ids) :
    ∃ source ∈ g.entryPoints, ReflTransGen g.Joins source id := by
  have hmem (x : String) : x ∈ order ↔ x ∈ g.ids := (executionOrder_perm hp h).mem_iff
  have hclosed : ∀ c ∈ g.connections, c.target.node ∈ order → c.source.node ∈ order := by
    intro c hc _
    exact (hmem _).2 ((problems_eq_nil_iff.1 hp).1 c hc).1
  obtain ⟨source, hsource, hunfed, hreach⟩ :=
    (executionOrder_topological h).forward.exists_source hclosed ((hmem id).2 hid)
  exact ⟨source, (mem_entryPoints_iff hentries).2 ⟨(hmem source).1 hsource, hunfed⟩, hreach⟩

/-- In a graph without dangling references that declares no node to start from, the entry points are
the nodes that no connection feeds. If the graph has an order, then every declared node can be reached
from one of them. So a graph that has nodes and no entry point among them has a cycle, which fails
the run. -/
theorem executionOrder_from_sources (g : Graph) (hp : g.problems = []) (hentries : g.declaredEntries = []) :
    (∀ id, id ∈ g.entryPoints ↔ id ∈ g.ids ∧ ∀ c ∈ g.connections, c.target.node ≠ id) ∧
    (∀ order, g.executionOrder = .ok order →
      ∀ id ∈ g.ids, ∃ source ∈ g.entryPoints, ReflTransGen g.Joins source id) ∧
    (g.ids ≠ [] → g.entryPoints = [] →
      ∃ cycle, g.executionOrder = .error cycle ∧
        ∀ session, (Engine.schedule g session).1 = .error (.cycle cycle.node cycle.path)) := by
  refine ⟨fun id => mem_entryPoints_iff hentries, fun order h id hid => ?_, fun hids hnone => ?_⟩
  · exact exists_entryPoint_of_executionOrder hp hentries h hid
  · cases h : g.executionOrder with
    | error cycle =>
      refine ⟨cycle, rfl, fun session => ?_⟩
      rw [schedule_fst, h]
      rfl
    | ok order =>
      obtain ⟨id, hid⟩ := List.exists_mem_of_ne_nil _ hids
      obtain ⟨source, hsource, -⟩ := exists_entryPoint_of_executionOrder hp hentries h hid
      rw [hnone] at hsource
      cases hsource

/-- Two sources of one sink, and a cycle that nothing outside feeds. -/
theorem executionOrder_from_sources_cycle :
    (∃ source ∈ (ofEdges ["t", "s", "r"] [("s", "t"), ("r", "t")]).entryPoints,
      ReflTransGen (ofEdges ["t", "s", "r"] [("s", "t"), ("r", "t")]).Joins source "t") ∧
    (ofEdges ["a", "b", "c"] [("a", "b"), ("b", "c"), ("c", "a")]).entryPoints = [] ∧
    ∃ cycle, (ofEdges ["a", "b", "c"] [("a", "b"), ("b", "c"), ("c", "a")]).executionOrder = .error cycle := by
  have horder : (ofEdges ["t", "s", "r"] [("s", "t"), ("r", "t")]).executionOrder = .ok ["r", "s", "t"] := by cbv
  obtain ⟨-, hreach, -⟩ := executionOrder_from_sources (ofEdges ["t", "s", "r"] [("s", "t"), ("r", "t")])
    (by decide) rfl
  obtain ⟨-, -, hcycle⟩ := executionOrder_from_sources
    (ofEdges ["a", "b", "c"] [("a", "b"), ("b", "c"), ("c", "a")]) (by decide) rfl
  have hnone : (ofEdges ["a", "b", "c"] [("a", "b"), ("b", "c"), ("c", "a")]).entryPoints = [] := by decide
  obtain ⟨cycle, h, -⟩ := hcycle (by decide) hnone
  exact ⟨hreach _ horder "t" (by decide), hnone, cycle, h⟩

end Dataflow.Graph
