import Dataflow.Proofs.Schedule.Order
/-!
# What an execution order sees of the connections

The walk of a graph asks where to start and, of each node, which nodes consume it, in the order in
which they first come and without repetition. Two graphs that answer these questions alike have the
same execution order, or fail with the same cycle (`executionOrder_congr`). So connections may be
rewired (`Rewires`): the ports and the kind of a connection may be others, a connection between two
nodes may be repeated, and connections that leave different nodes may be listed in another order.
-/

namespace Dataflow.Graph

variable {g g' : Graph} {connections connections' : List Connection} {id : String}

/-! ## Walks of two graphs -/

/-- A node is fed when it is among the consumers of some node. -/
theorem any_target_iff : g.connections.any (·.target.node = id) ↔ ∃ producer, id ∈ g.dependents producer := by
  simp only [mem_dependents, Joins, List.any_eq_true, decide_eq_true_eq]
  constructor
  · rintro ⟨c, hc, htarget⟩
    exact ⟨c.source.node, c, hc, rfl, htarget⟩
  · rintro ⟨_, c, hc, -, htarget⟩
    exact ⟨c, hc, htarget⟩

/-- Two graphs declare the same nodes and the same nodes to start from, and every node has the same
consumers in the order in which they first come. -/
structure WalkedAlike (g g' : Graph) : Prop where
  ids : g'.ids = g.ids
  entries : g'.declaredEntries = g.declaredEntries
  consumers : ∀ id, (consumers g'.connections id).eraseDups = (consumers g.connections id).eraseDups

theorem WalkedAlike.dependents (h : g.WalkedAlike g') (id : String) : g'.dependents id = g.dependents id := by
  rw [dependents_eq, dependents_eq, h.consumers]

/-- Where no node is declared to start from, the nodes that nothing feeds are the same. -/
theorem WalkedAlike.entryPoints (h : g.WalkedAlike g') : g'.entryPoints = g.entryPoints := by
  have hfed (id : String) : g'.connections.any (·.target.node = id) = g.connections.any (·.target.node = id) := by
    rw [Bool.eq_iff_iff, any_target_iff, any_target_iff]
    simp only [h.dependents]
  simp only [Graph.entryPoints, h.entries, h.ids, hfed]

/-- A visit goes the same way in both graphs, to its end or to the same cycle. -/
theorem WalkedAlike.visitAll (h : g.WalkedAlike g') (w : Walk) (nodes : List String) :
    g'.visitAll w nodes = g.visitAll w nodes := by
  induction w, nodes using visitAll_induct g with
  | nil w => rw [visitAll_nil, visitAll_nil]
  | done w node rest hd ih => rw [visitAll_done hd, visitAll_done hd, ih]
  | inProgress w node rest hp => rw [visitAll_inProgress hp, visitAll_inProgress hp]
  | unmarked w node rest hn inside after =>
    rw [visitAll_unmarked hn, visitAll_unmarked hn, h.dependents, inside]
    cases hinner : g.visitAll (w.enter node) (g.dependents node) with
    | error cycle => rfl
    | ok inner => exact after inner hinner

theorem executionOrder_congr (h : g.WalkedAlike g') : g'.executionOrder = g.executionOrder := by
  unfold executionOrder seeds
  rw [h.entryPoints, h.ids, h.visitAll]

/-! ## Other connections between the same nodes -/

/-- Changes of the connections that leave the distinct consumers of every node in their order. -/
inductive Rewires : List Connection → List Connection → Prop
  /-- A connection is made between other ports, or declared in the other block. -/
  | replace {front back : List Connection} {c c' : Connection} :
      c'.source.node = c.source.node → c'.target.node = c.target.node →
      Rewires (front ++ c :: back) (front ++ c' :: back)
  /-- Two nodes are connected once more. -/
  | again {front back : List Connection} {c c' : Connection} : c ∈ front →
      c'.source.node = c.source.node → c'.target.node = c.target.node →
      Rewires (front ++ back) (front ++ c' :: back)
  /-- Of two connections that leave different nodes the second is listed first. -/
  | swap {front back : List Connection} {c c' : Connection} : c.source.node ≠ c'.source.node →
      Rewires (front ++ c :: c' :: back) (front ++ c' :: c :: back)

/-- What comes again is no new occurrence. -/
theorem eraseDups_again {front back : List String} {x : String} (h : x ∈ front) :
    (front ++ x :: back).eraseDups = (front ++ back).eraseDups := by
  rw [List.eraseDups_append, List.eraseDups_append]
  simp [List.removeAll, h]

theorem Rewires.consumers (h : Rewires connections connections') (id : String) :
    (consumers connections' id).eraseDups = (consumers connections id).eraseDups := by
  cases h with
  | replace hsource htarget => simp [hsource, htarget]
  | @again front back c c' hc hsource htarget =>
    by_cases hid : c.source.node = id
    · have hknown : c.target.node ∈ Graph.consumers front id := mem_consumers.2 ⟨c, hc, hid, rfl⟩
      simp [hsource, htarget, hid, eraseDups_again hknown]
    · simp [hsource, hid]
  | @swap front back c c' hne =>
    by_cases hid : c.source.node = id
    · have hid' : c'.source.node ≠ id := fun h => hne (hid.trans h.symm)
      simp [hid, hid']
    · simp [hid]

/-- After any number of changes, and of changes undone, every node has the same distinct consumers. -/
theorem consumers_of_rewired (h : Relation.EqvGen Rewires connections connections') (id : String) :
    (consumers connections' id).eraseDups = (consumers connections id).eraseDups := by
  induction h with
  | rel _ _ h => exact h.consumers id
  | refl _ => rfl
  | symm _ _ _ ih => exact ih.symm
  | trans _ _ _ _ _ ih ih' => exact ih'.trans ih

/-- Graphs with the same nodes and declared entry points, in which every node has the same distinct
consumers as they first come, have the same execution order or fail with the same cycle. Ports and
kinds of connections, connections that are repeated, and the order of connections that leave
different nodes are therefore not seen. -/
theorem executionOrder_of_consumers (g : Graph) :
    (∀ g' : Graph, g'.ids = g.ids → g'.declaredEntries = g.declaredEntries →
      (∀ id, (consumers g'.connections id).eraseDups = (consumers g.connections id).eraseDups) →
      g'.executionOrder = g.executionOrder) ∧
    ∀ connections, Relation.EqvGen Rewires g.connections connections →
      { g with connections }.executionOrder = g.executionOrder := by
  constructor
  · intro g' hids hentries hconsumers
    exact executionOrder_congr ⟨hids, hentries, hconsumers⟩
  · intro connections h
    exact executionOrder_congr ⟨rfl, rfl, consumers_of_rewired h⟩

/-- A cycle behind a start, with the connections listed backwards, between other ports and one of them
twice, and with a connection between two connected nodes added. -/
theorem executionOrder_of_consumers_cycle :
    let g := ofEdges ["s", "a", "b"] [("s", "a"), ("a", "b"), ("b", "a")]
    let listed := [⟨⟨"b", "done"⟩, ⟨"a", "trigger"⟩, .control⟩, ⟨⟨"a", "out"⟩, ⟨"b", "x"⟩, .data⟩,
      ⟨⟨"a", "out"⟩, ⟨"b", "y"⟩, .data⟩, ⟨⟨"s", "done"⟩, ⟨"a", "trigger"⟩, .control⟩]
    let added := ⟨⟨"a", "done"⟩, ⟨"b", "trigger"⟩, .control⟩
    (∀ id, (consumers listed id).eraseDups = (consumers g.connections id).eraseDups) ∧
    { g with connections := listed }.executionOrder = .error ⟨"a", ["a", "b", "a"]⟩ ∧
    { g with connections := g.connections ++ [added] }.executionOrder = .error ⟨"a", ["a", "b", "a"]⟩ := by
  intro g listed added
  have horder : g.executionOrder = .error ⟨"a", ["a", "b", "a"]⟩ := by cbv
  have hconnections : g.connections = [⟨⟨"s", "out"⟩, ⟨"a", "in"⟩, .data⟩, ⟨⟨"a", "out"⟩, ⟨"b", "in"⟩, .data⟩,
      ⟨⟨"b", "out"⟩, ⟨"a", "in"⟩, .data⟩] := rfl
  have hlisted : ∀ id, (consumers listed id).eraseDups = (consumers g.connections id).eraseDups := by
    intro id
    by_cases hs : "s" = id
    · subst hs; rfl
    · by_cases ha : "a" = id
      · subst ha; rfl
      · simp [hconnections, listed, hs, ha]
  have hadded : Rewires g.connections (g.connections ++ [added]) := by
    rw [← List.append_nil g.connections, List.append_assoc]
    exact .again (c := ⟨⟨"a", "out"⟩, ⟨"b", "in"⟩, .data⟩) (by decide) rfl rfl
  obtain ⟨hcongr, hrewired⟩ := executionOrder_of_consumers g
  exact ⟨hlisted, (hcongr { g with connections := listed } rfl rfl hlisted).trans horder,
    (hrewired _ (.rel _ _ hadded)).trans horder⟩

end Dataflow.Graph
