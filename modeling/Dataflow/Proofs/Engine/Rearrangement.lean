import Dataflow.Proofs.Engine.Run
import Dataflow.Proofs.Run.Confluence
import Dataflow.Proofs.Run.Terminal
import Mathlib
/-!
# Listing a graph in another order

A run succeeds exactly when the graph hangs together, has no cycle and its dataflow equations have a
solution (`Graph.result_eq_ok`, `Graph.result_of_solves`). None of this depends on the order in
which nodes and connections are listed or on where the walk starts, as long as the connections into
one port keep their order (`Graph.Rearranges`). The terminal outputs are those of the solution, up to
outputs that share a key.
-/

namespace Dataflow

open Relation

/-! ## Runs that succeed -/

namespace Graph

variable {g g' : Graph} {r : Registry}

/-- What a run gives are the terminal outputs of a solution. -/
theorem result_eq_ok (hr : r.Stateless) (hg : g.KeyedById) {outputs : SortedMap Json} (h : g.result r = .ok outputs) :
    g.problems = [] ∧ (∀ id ∈ g.ids, ¬ TransGen g.Joins id id) ∧
      ∃ solution, g.Solves r solution ∧ outputs = g.terminalOutputs solution := by
  obtain ⟨order, hplan, hrun⟩ := Except.bind_eq_ok_iff.1 h
  obtain ⟨results, heval, rfl⟩ := Except.map_eq_ok_iff.1 hrun
  obtain ⟨hp, horder⟩ := Engine.plan_ok hplan
  have ht := executionOrder_topological horder
  have hperm := executionOrder_perm hp horder
  exact ⟨hp, fun id hid => ht.not_transGen (hperm.mem_iff.2 hid),
    results, solves_of_evaluate hr hg hperm ht.forward heval, rfl⟩

/-- A graph with a solution names registered plugins only. -/
theorem Solves.contains {results : Results} (hs : g.Solves r results) {plugin : String}
    (h : plugin ∈ g.referencedPlugins) : r.contains plugin := by
  simp only [referencedPlugins, List.mem_eraseDups, List.mem_map] at h
  obtain ⟨node, hm, rfl⟩ := h
  obtain ⟨⟨id, node'⟩, he, rfl⟩ := List.mem_map.1 hm
  obtain ⟨p, -, hp, -⟩ := hs.equation id node' (OrderedMap.mem_entries_iff.1 he)
  exact Option.isSome_iff_exists.2 ⟨p, hp⟩

theorem result_of_solves (hr : r.Stateless) (hg : g.KeyedById) (hp : g.problems = [])
    (hc : ∀ id ∈ g.ids, ¬ TransGen g.Joins id id) {solution : Results} (hs : g.Solves r solution) :
    ∃ results, (∀ id, results.get? id = solution.get? id) ∧ g.result r = .ok (g.terminalOutputs results) := by
  -- Nothing is known of the order beyond that there is one; every order finds the solution.
  obtain ⟨order, horder⟩ := executionOrder_of_acyclic hp hc
  have hplan : g.plan r = .ok order := Engine.plan_eq_ok_iff.2 ⟨hp, fun _ h => hs.contains h, horder⟩
  obtain ⟨results, heval, hsame⟩ := evaluate_order_of_solves hr hg (executionOrder_perm hp horder)
    (executionOrder_topological horder).forward hs
  refine ⟨results, hsame, ?_⟩
  rw [result, hplan]
  exact Except.map_eq_ok_iff.2 ⟨results, heval, rfl⟩

/-! ## The same graph in another order -/

/-- `g'` has the nodes and the connections of `g`. They may be listed in another order, but the
connections into one port follow each other as in `g`. Either may start from any declared nodes. -/
structure Rearranges (g g' : Graph) : Prop where
  nodes : g'.nodes.entries.Perm g.nodes.entries
  fanIn : ∀ port : Endpoint, g'.connections.filter (·.target = port) = g.connections.filter (·.target = port)
  entries : ∀ id ∈ g.declaredEntries, id ∈ g.ids
  entries' : ∀ id ∈ g'.declaredEntries, id ∈ g'.ids

namespace Rearranges

theorem get?_eq (h : g.Rearranges g') (id : String) : g'.nodes.get? id = g.nodes.get? id := by
  ext node
  rw [← OrderedMap.mem_entries_iff, ← OrderedMap.mem_entries_iff, h.nodes.mem_iff]

theorem mem_ids (h : g.Rearranges g') (id : String) : id ∈ g'.ids ↔ id ∈ g.ids := by
  simp only [ids, OrderedMap.mem_keys_iff, h.get?_eq]

theorem mem_connections (h : g.Rearranges g') (c : Connection) : c ∈ g'.connections ↔ c ∈ g.connections := by
  have hm : c ∈ g'.connections.filter (·.target = c.target) ↔ c ∈ g.connections.filter (·.target = c.target) := by
    rw [h.fanIn]
  simpa using hm

theorem symm (h : g.Rearranges g') : g'.Rearranges g :=
  ⟨h.nodes.symm, fun port => (h.fanIn port).symm, h.entries', h.entries⟩

theorem joins (h : g.Rearranges g') {a b : String} (hab : g'.Joins a b) : g.Joins a b := by
  obtain ⟨c, hc, ha, hb⟩ := hab
  exact ⟨c, (h.mem_connections c).1 hc, ha, hb⟩

theorem isConsumed_eq (h : g.Rearranges g') (id port : String) : g'.isConsumed id port = g.isConsumed id port := by
  rw [Bool.eq_iff_iff]
  simp only [isConsumed, List.any_eq_true, h.mem_connections]

theorem problems_eq_nil (h : g.Rearranges g') (hp : g.problems = []) : g'.problems = [] := by
  obtain ⟨hc, -⟩ := problems_eq_nil_iff.1 hp
  refine problems_eq_nil_iff.2 ⟨fun c hm => ?_, h.entries'⟩
  obtain ⟨hs, ht⟩ := hc c ((h.mem_connections c).1 hm)
  exact ⟨(h.mem_ids _).2 hs, (h.mem_ids _).2 ht⟩

theorem acyclic (h : g.Rearranges g') (hc : ∀ id ∈ g.ids, ¬ TransGen g.Joins id id) :
    ∀ id ∈ g'.ids, ¬ TransGen g'.Joins id id :=
  fun id hid hcycle => hc id ((h.mem_ids id).1 hid) (TransGen.mono (fun _ _ => h.joins) _ _ hcycle)

/-- The order in which connections into different ports are listed does not show in the inputs. -/
theorem gatherInputs_eq (h : g.Rearranges g') (node : Node) (results : Results) :
    g'.gatherInputs node results = g.gatherInputs node results := by
  -- What a port gets depends on the connections into this port only, and these keep their order.
  apply SortedMap.ext_get?
  intro port
  rw [get?_gatherInputs, get?_gatherInputs, lastValue?, h.fanIn, lastValue?]

theorem solves (h : g.Rearranges g') {results : Results} (hs : g.Solves r results) : g'.Solves r results where
  declared id := (hs.declared id).trans (h.mem_ids id).symm
  equation id node hn := by
    rw [h.get?_eq] at hn
    obtain ⟨plugin, outputs, hp, ho, hrun⟩ := hs.equation id node hn
    refine ⟨plugin, outputs, hp, ho, ?_⟩
    rw [h.gatherInputs_eq]
    exact hrun

/-- If a graph can be run, then so it can in another order, with the same solution. -/
theorem result_eq_ok (h : g.Rearranges g') (hr : r.Stateless) (hg : g.KeyedById) (hg' : g'.KeyedById)
    {outputs : SortedMap Json} (hok : g.result r = .ok outputs) :
    ∃ outputs', g'.result r = .ok outputs' ∧
      ((∀ results, g.Solves r results → g.Unambiguous results) → outputs' = outputs) := by
  obtain ⟨hp, hc, solution, hs, rfl⟩ := Graph.result_eq_ok hr hg hok
  obtain ⟨results, hsame, hres⟩ := result_of_solves hr hg' (h.problems_eq_nil hp) (h.acyclic hc) (h.solves hs)
  refine ⟨_, hres, fun hu => terminalOutputs_congr (hu solution hs) fun e => ?_⟩
  unfold unread? Results.valueAt?
  rw [h.isConsumed_eq, hsame]

end Rearranges

end Graph

namespace Engine

variable {e : Engine} {g g' : Graph}

/-- A graph in another order succeeds exactly when the graph does. The two envelopes are equal
unless two unread outputs of the run hold different values under one key, which they cannot if no
name of a node has a dot. -/
theorem execute_rearranged (hr : e.registry.Stateless) (hg : g.KeyedById) (hg' : g'.KeyedById) (h : g.Rearranges g')
    (s s' : Session) :
    ((e.execute g s).1.status = .success ↔ (e.execute g' s').1.status = .success) ∧
    ((e.execute g s).1.status = .success →
      (∀ results, g.Solves e.registry results → g.Unambiguous results) →
      (e.execute g s).1 = (e.execute g' s').1) ∧
    ((∀ id ∈ g.ids, '.' ∉ id.toList) → ∀ results, g.Solves e.registry results → g.Unambiguous results) := by
  rw [execute_fst hr hg, execute_fst hr hg', Envelope.ofResult_status, Envelope.ofResult_status]
  refine ⟨⟨?_, ?_⟩, ?_, ?_⟩
  · rintro ⟨outputs, hok⟩
    obtain ⟨outputs', hok', -⟩ := h.result_eq_ok hr hg hg' hok
    exact ⟨outputs', hok'⟩
  · rintro ⟨outputs, hok⟩
    obtain ⟨outputs', hok', -⟩ := h.symm.result_eq_ok hr hg' hg hok
    exact ⟨outputs', hok'⟩
  · rintro ⟨outputs, hok⟩ hu
    obtain ⟨outputs', hok', hsame⟩ := h.result_eq_ok hr hg hg' hok
    rw [hok, hok', hsame hu]
  · intro hdots results hs
    exact Graph.unambiguous_of_no_dot fun id hid => hdots id ((hs.declared id).1 hid)

/-- Both ways through a diamond, listed backwards and started from its end. -/
theorem execute_rearranged_diamond :
    let e : Engine := { Engine.new {} (.ofList []) with registry := .gathering }
    let g := Graph.ofEdges ["s", "l", "r", "j"] [("s", "l"), ("s", "r"), ("l", "j"), ("r", "j")]
    let g' := (Graph.ofEdges ["j", "r", "l", "s"] [("l", "j"), ("s", "r"), ("r", "j"), ("s", "l")]).addEntry "j"
    let s := Session.ofSupply default
    (e.execute g s).1.status = .success ∧ (e.execute g s).1 = (e.execute g' s).1 := by
  intro e g g' s
  have hr : e.registry.Stateless := Registry.gathering_stateless
  have hg : g.KeyedById := by unfold Graph.KeyedById; decide
  have hg' : g'.KeyedById := by unfold Graph.KeyedById; decide
  have hnodes : g'.nodes.entries = g.nodes.entries.reverse := rfl
  have hconnections : ∀ c ∈ g'.connections, c ∈ g.connections := by decide
  have hsame : g.Rearranges g' := by
    refine ⟨hnodes ▸ List.reverse_perm _, fun port => ?_, by decide, by decide⟩
    by_cases hport : port ∈ g.connections.map (·.target)
    · revert port
      decide
    · have hnone : ∀ c ∈ g.connections, ¬ decide (c.target = port) = true := fun c hc hp =>
        hport (of_decide_eq_true hp ▸ List.mem_map_of_mem hc)
      rw [List.filter_eq_nil_iff.2 hnone, List.filter_eq_nil_iff.2 fun c hc => hnone c (hconnections c hc)]
  have hplan : g.plan e.registry = .ok ["s", "r", "l", "j"] := by cbv
  have hok : (e.execute g s).1.status = .success := by
    rw [execute_fst hr hg, Envelope.ofResult_status, Graph.result, hplan]
    exact ⟨_, rfl⟩
  obtain ⟨-, heq, hdots⟩ := execute_rearranged hr hg hg' hsame s s
  exact ⟨hok, heq hok (hdots (by decide))⟩

/-- A port with a dot in its name and a node with one. -/
theorem execute_rearranged_dotted :
    let p : Plugin := {
      declaration := .named "p" "1.0.0" "Emits"
      run := fun node _ => pure (.ok (if node = "A" then SortedMap.empty.insert "b.c" (.int 1)
        else SortedMap.empty.insert "c" (.int 2))) }
    let e : Engine := { Engine.new {} (.ofList []) with registry := ⟨SortedMap.empty.insert "p" p⟩ }
    let g := ((Graph.named "g").addNode (.named "a" "p" "A")).addNode (.named "a.b" "p" "B")
    let g' := ((Graph.named "g").addNode (.named "a.b" "p" "B")).addNode (.named "a" "p" "A")
    let s := Session.ofSupply default
    e.registry.Stateless ∧ g.KeyedById ∧ g'.KeyedById ∧ g.Rearranges g' ∧
      (e.execute g s).1.status = .success ∧ (e.execute g' s).1.status = .success ∧
      (e.execute g s).1 ≠ (e.execute g' s).1 := by
  intro p e g g' s
  have hr : e.registry.Stateless := Registry.stateless_empty.insert "p" ⟨_, fun _ _ _ => rfl⟩
  have hg : g.KeyedById := by unfold Graph.KeyedById; decide
  have hg' : g'.KeyedById := by unfold Graph.KeyedById; decide
  have hres : g.result e.registry = .ok (SortedMap.empty.insert "a.b.c" (.int 1)) := by cbv
  have hres' : g'.result e.registry = .ok (SortedMap.empty.insert "a.b.c" (.int 2)) := by cbv
  refine ⟨hr, hg, hg', ⟨.swap _ _ _, fun _ => rfl, by decide, by decide⟩, ?_⟩
  rw [execute_fst hr hg, execute_fst hr hg', hres, hres']
  refine ⟨rfl, rfl, ?_⟩
  decide +kernel

end Engine

end Dataflow
