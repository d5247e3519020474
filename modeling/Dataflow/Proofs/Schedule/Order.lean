import Dataflow.Engine.Basic
import Dataflow.Graph.Validation
import Dataflow.Proofs.Schedule.Walk
import Mathlib
/-!
# Execution orders and cycles

`Graph.executionOrder` gives an order exactly when no cycle can be reached from where it starts.
An order lists the reachable nodes, each before its consumers; for a graph without dangling
references these are the declared ones. A failure shows a simple cycle of reachable nodes.
-/

namespace Dataflow

open Relation

/-! ## Cycles -/

/-- A way along connections that comes back to its first node and passes no other node twice. -/
structure Graph.IsSimpleCycle (g : Graph) (cycle : Cycle) : Prop where
  two_le : 2 ≤ cycle.path.length
  head : cycle.path.head? = some cycle.node
  last : cycle.path.getLast? = some cycle.node
  nodup : cycle.path.dropLast.Nodup
  chain : cycle.path.IsChain g.Joins

/-- The path from one of its nodes on, closed by that node. -/
theorem Walk.close_eq {w : Walk} {node : String} (h : node ∈ w.path) :
    ∃ front back, w.path = front ++ node :: back ∧ w.path.idxOf? node = some front.length ∧
      w.close node = ⟨node, node :: back ++ [node]⟩ := by
  obtain ⟨front, back, hp, hn⟩ := List.eq_append_cons_of_mem h
  have hi : w.path.idxOf? node = some front.length := by
    rw [hp, List.idxOf?_eq_some_iff]
    refine ⟨by simp, by simp, fun j hj hx => hn ?_⟩
    rw [List.getElem_append_left hj] at hx
    exact hx ▸ List.getElem_mem hj
  refine ⟨front, back, hp, hi, ?_⟩
  rw [close, hi, hp]
  simp

namespace Graph

variable {g : Graph}

theorem IsSimpleCycle.transGen {cycle : Cycle} (h : g.IsSimpleCycle cycle) :
    TransGen g.Joins cycle.node cycle.node := by
  obtain ⟨node, path⟩ := cycle
  obtain ⟨h2, hh, hl, -, hc⟩ := h
  match path, h2 with
  | a :: b :: rest, _ =>
    simp only [List.head?_cons, Option.some.injEq] at hh
    subst hh
    obtain ⟨hab, hc⟩ := List.isChain_cons_cons.1 hc
    refine TransGen.head' hab (List.relationReflTransGen_of_exists_isChain_cons rest hc ?_)
    rwa [List.getLast?_cons_cons, List.getLast?_eq_some_getLast (List.cons_ne_nil _ _), Option.some.injEq] at hl

/-- A walk that comes back to a node in progress closes a simple cycle. -/
theorem pending_inProgress {w : Walk} {node : String} {rest : List String} (hp : g.Pending w (node :: rest))
    (h : w.marks.get? node = some .inProgress) :
    node ∈ w.path ∧ g.IsSimpleCycle (w.close node) ∧ g.Reachable node := by
  obtain ⟨hs, hf, hr⟩ := pending_sound hp
  have hn : node ∈ w.path := (hs.inProgress_iff node).1 h
  obtain ⟨front, back, hpath, -, hclose⟩ := Walk.close_eq hn
  have hc : (node :: back).IsChain g.Joins := (List.isChain_append.1 (hpath ▸ hs.chain)).2.1
  have hnd : (node :: back).Nodup := (List.nodup_append.1 (hpath ▸ hs.nodup)).2.1
  refine ⟨hn, ?_, hr node List.mem_cons_self⟩
  refine hclose ▸ ⟨by simp, rfl, List.getLast?_concat, by rwa [List.dropLast_concat], ?_⟩
  -- The walk stands at the end of its path, and that node feeds `node`.
  refine List.isChain_append.2 ⟨hc, .singleton _, fun last hl next hx => ?_⟩
  have hnext : node = next := by simpa using hx
  refine hnext ▸ hf node List.mem_cons_self last ?_
  rw [hpath, List.getLast?_append, hl]
  rfl

/-- A graph without an execution order has a simple cycle that can be reached. -/
theorem executionOrder_error {cycle : Cycle} (h : g.executionOrder = .error cycle) :
    g.IsSimpleCycle cycle ∧ g.Reachable cycle.node := by
  obtain ⟨w, node, rest, hp, hm, rfl⟩ := visitAll_error (Except.map_eq_error_iff.1 h)
  exact (pending_inProgress hp hm).2

/-- The cycle that a failing walk shows is there: its first and its last entry are the node where
the walk came back, the others are distinct, and connections join one to the next. A walk never
looks for a node in progress that is not on its path. -/
theorem executionOrder_cycle (g : Graph) :
    (∀ cycle, g.executionOrder = .error cycle →
      2 ≤ cycle.path.length ∧ cycle.path.head? = some cycle.node ∧
      cycle.path.getLast? = some cycle.node ∧ cycle.path.dropLast.Nodup ∧
      (∀ i (hi : i + 1 < cycle.path.length), ∃ c ∈ g.connections,
        c.source.node = cycle.path[i] ∧ c.target.node = cycle.path[i + 1]) ∧
      g.Reachable cycle.node) ∧
    ∀ w node rest, g.Pending w (node :: rest) → w.marks.get? node = some .inProgress →
      ∃ i, w.path.idxOf? node = some i := by
  refine ⟨fun cycle h => ?_, fun w node rest hp hm => ?_⟩
  · obtain ⟨hs, hr⟩ := executionOrder_error h
    exact ⟨hs.two_le, hs.head, hs.last, hs.nodup, fun i hi => hs.chain.getElem i hi, hr⟩
  · obtain ⟨front, -, -, hi, -⟩ := Walk.close_eq (pending_inProgress hp hm).1
    exact ⟨front.length, hi⟩

/-- A graph with nodes of one type, and a connection for every pair. -/
def ofEdges (ids : List String) (edges : List (String × String)) : Graph :=
  let nodes := ids.foldl (fun g id => g.addNode (.named id "basic" "Start")) (.named "sample")
  edges.foldl (fun g (a, b) => g.connect ⟨⟨a, "out"⟩, ⟨b, "in"⟩, .data⟩) nodes

theorem executionOrder_cycle_behind_start :
    (ofEdges ["s", "a", "b"] [("s", "a"), ("a", "b"), ("b", "a")]).executionOrder =
      .error ⟨"a", ["a", "b", "a"]⟩ ∧
    (ofEdges ["s", "a", "b"] [("s", "a"), ("a", "b"), ("b", "a")]).Reachable "a" := by
  have h : (ofEdges ["s", "a", "b"] [("s", "a"), ("a", "b"), ("b", "a")]).executionOrder =
      .error ⟨"a", ["a", "b", "a"]⟩ := by cbv
  exact ⟨h, ((executionOrder_cycle _).1 _ h).2.2.2.2.2⟩

/-! ## Orders -/

theorem executionOrder_ok {order : List String} (h : g.executionOrder = .ok order) :
    ∃ w, g.visitAll .start g.seeds = .ok w ∧ g.Visited .start g.seeds w ∧ w.order = order := by
  obtain ⟨w, hv, ho⟩ := Except.map_eq_ok_iff.1 h
  exact ⟨w, hv, visitAll_visited (Walk.sound_start g) (Walk.feeds_start g _) hv, ho⟩

theorem executionOrder_topological {order : List String} (h : g.executionOrder = .ok order) :
    g.Topological order := by
  obtain ⟨w, -, hv, rfl⟩ := executionOrder_ok h
  exact hv.sound.topological

/-- An execution order lists the reachable nodes. -/
theorem mem_executionOrder {order : List String} (h : g.executionOrder = .ok order) (id : String) :
    id ∈ order ↔ g.Reachable id := by
  obtain ⟨w, -, hv, rfl⟩ := executionOrder_ok h
  rw [hv.mem_order, Reachable]
  simp [Walk.start]

/-- In a graph without dangling references only declared nodes can be reached. -/
theorem reachable_iff_mem_ids (hg : g.problems = []) (id : String) : g.Reachable id ↔ id ∈ g.ids := by
  obtain ⟨hc, he⟩ := problems_eq_nil_iff.1 hg
  have hseeds : ∀ seed ∈ g.seeds, seed ∈ g.ids := by
    intro seed hs
    unfold seeds entryPoints at hs
    split at hs
    · simp only [List.mem_append, List.mem_filter] at hs
      exact hs.elim And.left fun h => h
    · exact (List.mem_append.1 hs).elim (he seed) fun h => h
  constructor
  · rintro ⟨seed, hs, hr⟩
    cases hr with
    | refl => exact hseeds id hs
    | tail _ hab =>
      obtain ⟨c, hcm, -, rfl⟩ := hab
      exact (hc c hcm).2
  · exact fun hid => ⟨id, List.mem_append_right _ hid, .refl⟩

theorem executionOrder_of_acyclic (hp : g.problems = []) (h : ∀ id ∈ g.ids, ¬ TransGen g.Joins id id) :
    ∃ order, g.executionOrder = .ok order := by
  cases horder : g.executionOrder with
  | ok order => exact ⟨order, rfl⟩
  | error cycle =>
    obtain ⟨hs, hreach⟩ := executionOrder_error horder
    exact absurd hs.transGen (h _ ((reachable_iff_mem_ids hp _).1 hreach))

/-- No node stands before one that feeds it, as far as both are listed. -/
def Forward (g : Graph) (order : List String) : Prop :=
  ∀ c ∈ g.connections, c.source.node ∈ order → c.target.node ∈ order →
    order.idxOf c.source.node < order.idxOf c.target.node

/-- A node of an order without repetition stands neither in front of itself nor behind. -/
theorem notMem_parts {front back : List String} {id : String} (hn : (front ++ id :: back).Nodup) :
    id ∉ front ∧ id ∉ back := by
  simpa using (List.nodup_cons.1 (List.nodup_middle.1 hn)).1

theorem mem_front_of_lt {front back : List String} {id x : String} (hn : (front ++ id :: back).Nodup)
    (h : (front ++ id :: back).idxOf x < (front ++ id :: back).idxOf id) : x ∈ front := by
  by_contra hx
  rw [List.idxOf_append_of_notMem hx, List.idxOf_append_of_notMem (notMem_parts hn).1, List.idxOf_cons_self] at h
  omega

/-- What feeds a node stands in front of it. -/
theorem Forward.mem_front {front back : List String} {id : String} (hf : g.Forward (front ++ id :: back))
    (hn : (front ++ id :: back).Nodup) {c : Connection} (hc : c ∈ g.connections) (ht : c.target.node = id)
    (hs : c.source.node ∈ front ++ id :: back) : c.source.node ∈ front :=
  mem_front_of_lt hn (ht ▸ hf c hc hs (by simp [ht]))

theorem Topological.forward {order : List String} (h : g.Topological order) : g.Forward order :=
  fun c hc ha _ => (h.lt ha ⟨c, hc, rfl, rfl⟩).2

theorem executionOrder_perm {order : List String} (hg : g.problems = []) (h : g.executionOrder = .ok order) :
    order.Perm g.ids := by
  rw [List.perm_ext_iff_of_nodup (executionOrder_topological h).nodup g.nodup_ids]
  intro id
  rw [mem_executionOrder h, reachable_iff_mem_ids hg]

/-- An order shows that nothing runs in circles, not even among undeclared names. -/
theorem acyclic_of_executionOrder {order : List String} (hp : g.problems = []) (h : g.executionOrder = .ok order)
    (id : String) : ¬ TransGen g.Joins id id := by
  intro hcycle
  obtain ⟨_, ⟨c, hc, hs, -⟩, -⟩ := TransGen.head'_iff.1 hcycle
  have hid : id ∈ g.ids := hs ▸ ((problems_eq_nil_iff.1 hp).1 c hc).1
  exact (executionOrder_topological h).not_transGen ((executionOrder_perm hp h).mem_iff.2 hid) hcycle

/-- What an engine makes of an execution order: a cycle fails the run. -/
theorem schedule_fst (g : Graph) (session : Session) :
    (Engine.schedule g session).1 = g.executionOrder.mapError fun cycle => .cycle cycle.node cycle.path := by
  unfold Engine.schedule
  cases g.executionOrder <;> rfl

/-- The walk of a graph comes to an end. It gives an order exactly when no reachable node lies on
a cycle, and a cycle is all that it fails with. An order lists the reachable nodes once, each
before its consumers; if all references are declared, these are the declared nodes. -/
theorem executionOrder_iff_acyclic (g : Graph) :
    (WellFounded fun b a => g.Calls a b) ∧
    ((∃ order, g.executionOrder = .ok order) ↔ ¬ ∃ id, g.Reachable id ∧ TransGen g.Joins id id) ∧
    (∀ session e, (Engine.schedule g session).1 = .error e → ∃ node path, e = .cycle node path) ∧
    (∀ order, g.executionOrder = .ok order →
      order.Nodup ∧ (∀ id, id ∈ order ↔ g.Reachable id) ∧
      ∀ c ∈ g.connections, g.Reachable c.source.node →
        c.target.node ∈ order ∧ order.idxOf c.source.node < order.idxOf c.target.node) ∧
    (g.problems = [] → ∀ order, g.executionOrder = .ok order →
      order.Perm g.ids ∧
      ∀ c ∈ g.connections, order.idxOf c.source.node < order.idxOf c.target.node) := by
  refine ⟨wellFounded_calls g, ⟨?_, ?_⟩, ?_, ?_, ?_⟩
  · rintro ⟨order, h⟩ ⟨id, hid, hcycle⟩
    exact (executionOrder_topological h).not_transGen ((mem_executionOrder h id).2 hid) hcycle
  · intro hacyclic
    cases h : g.executionOrder with
    | ok order => exact ⟨order, rfl⟩
    | error cycle =>
      obtain ⟨hs, hr⟩ := executionOrder_error h
      exact absurd ⟨cycle.node, hr, hs.transGen⟩ hacyclic
  · intro session e he
    rw [schedule_fst] at he
    obtain ⟨cycle, -, rfl⟩ := Except.mapError_eq_error_iff.1 he
    exact ⟨cycle.node, cycle.path, rfl⟩
  · intro order h
    have ht := executionOrder_topological h
    refine ⟨ht.nodup, mem_executionOrder h, fun c hc hr => ?_⟩
    exact ht.lt ((mem_executionOrder h _).2 hr) ⟨c, hc, rfl, rfl⟩
  · intro hg order h
    have ht := executionOrder_topological h
    have hp := executionOrder_perm hg h
    refine ⟨hp, fun c hc => ?_⟩
    have hs : c.source.node ∈ g.ids := ((problems_eq_nil_iff.1 hg).1 c hc).1
    exact (ht.lt (hp.mem_iff.2 hs) ⟨c, hc, rfl, rfl⟩).2

theorem executionOrder_iff_acyclic_diamond :
    (ofEdges ["s", "l", "r", "j"] [("s", "l"), ("s", "r"), ("l", "j"), ("r", "j")]).executionOrder =
      .ok ["s", "r", "l", "j"] ∧
    ["s", "r", "l", "j"].Perm
      (ofEdges ["s", "l", "r", "j"] [("s", "l"), ("s", "r"), ("l", "j"), ("r", "j")]).ids := by
  have h : (ofEdges ["s", "l", "r", "j"] [("s", "l"), ("s", "r"), ("l", "j"), ("r", "j")]).executionOrder =
      .ok ["s", "r", "l", "j"] := by cbv
  exact ⟨h, ((executionOrder_iff_acyclic _).2.2.2.2 (by decide) _ h).1⟩

end Graph

end Dataflow
