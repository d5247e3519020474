import Dataflow.Proofs.Schedule.Order
/-!
# What each seed adds to an execution order

The seeds of a graph are its entry points and then its declared nodes. The walk goes from one after
the other, and between two of them it is at rest (`Walk.AtRest`): it is on no path, and it has placed
and marked what the seeds so far reach. Going on from such a walk it comes to rest again and puts all
that is new in front (`Walk.AtRest.visitAll`). So for every split of the seeds an execution order
falls into two parts: behind, what the first seeds reach, and ahead of it what only the others reach
(`executionOrder_seed_by_seed`).
-/

namespace Dataflow

open Relation

variable {g : Graph} {w w' : Walk} {front back nodes order : List String} {id : String}

/-- Connections lead from one of the nodes to `id`, which may be that node. -/
def Graph.Reaches (g : Graph) (nodes : List String) (id : String) : Prop :=
  ∃ node ∈ nodes, ReflTransGen g.Joins node id

theorem Graph.reaches_append : g.Reaches (front ++ back) id ↔ g.Reaches front id ∨ g.Reaches back id := by
  simp [Reaches, or_and_right, exists_or]

/-- A visit of nodes one after the other goes on from where the visit of the first of them ended. -/
theorem Graph.visitAll_append (w : Walk) (front back : List String) :
    g.visitAll w (front ++ back) = (g.visitAll w front).bind fun inner => g.visitAll inner back := by
  induction w, front using visitAll_induct g with
  | nil w => simp [Except.bind]
  | done w node rest hd ih => rw [List.cons_append, visitAll_done hd, visitAll_done hd, ih]
  | inProgress w node rest hp =>
    rw [List.cons_append, visitAll_inProgress hp, visitAll_inProgress hp]
    rfl
  | unmarked w node rest hn _ after =>
    rw [List.cons_append, visitAll_unmarked hn, visitAll_unmarked hn]
    cases hinner : g.visitAll (w.enter node) (g.dependents node) with
    | error cycle => rfl
    | ok inner => exact after inner hinner

/-! ## Walks between two seeds -/

namespace Walk

/-- The walk has gone from each of the nodes and is on no path: what they reach is placed. -/
structure AtRest (g : Graph) (nodes : List String) (w : Walk) : Prop where
  sound : w.Sound g
  path : w.path = []
  mem_order : ∀ id, id ∈ w.order ↔ g.Reaches nodes id

theorem atRest_start (g : Graph) : start.AtRest g [] where
  sound := sound_start g
  path := rfl
  mem_order id := by simp [start, Graph.Reaches]

/-- All that is marked is done. -/
theorem AtRest.marks (h : w.AtRest g nodes) (id : String) (mark : Mark) :
    w.marks.get? id = some mark ↔ mark = .done ∧ g.Reaches nodes id := by
  cases mark with
  | done => simp [h.sound.done_iff, h.mem_order]
  | inProgress => simp [h.sound.inProgress_iff, h.path]

/-- A visit that comes to its end leaves the walk at rest again, and places nothing behind what was
placed before. -/
theorem AtRest.visitAll (h : w.AtRest g front) (hv : g.visitAll w nodes = .ok w') :
    w'.AtRest g (front ++ nodes) ∧ w.order <:+ w'.order := by
  have hvisited := Graph.visitAll_visited h.sound (feeds_of_path_eq_nil h.path nodes) hv
  refine ⟨⟨hvisited.sound, hvisited.path.trans h.path, fun id => ?_⟩, hvisited.suffix⟩
  rw [hvisited.mem_order, h.mem_order, Graph.reaches_append]
  rfl

end Walk

/-! ## The parts of an order -/

namespace Graph

/-- The walk of a graph comes to rest after any first of the seeds, and what it has placed by then is
the end of the order. -/
theorem executionOrder_atRest (h : g.executionOrder = .ok order) (hseeds : g.seeds = front ++ back) :
    ∃ w ahead, g.visitAll .start front = .ok w ∧ w.AtRest g front ∧ order = ahead ++ w.order := by
  obtain ⟨last, hlast, -, rfl⟩ := executionOrder_ok h
  rw [hseeds, visitAll_append] at hlast
  obtain ⟨w, hw, hlast⟩ := Except.bind_eq_ok_iff.1 hlast
  obtain ⟨hrest, -⟩ := (Walk.atRest_start g).visitAll hw
  obtain ⟨-, ahead, hahead⟩ := hrest.visitAll hlast
  exact ⟨w, ahead, hw, hrest, hahead.symm⟩

/-- What comes ahead later is what only the later seeds reach. -/
theorem mem_ahead {ahead : List String} (h : g.executionOrder = .ok (ahead ++ w.order))
    (hseeds : g.seeds = front ++ back) (hrest : w.AtRest g front) :
    id ∈ ahead ↔ g.Reaches back id ∧ ¬ g.Reaches front id := by
  have hmem : id ∈ ahead ∨ id ∈ w.order ↔ g.Reaches front id ∨ g.Reaches back id := by
    rw [← List.mem_append, mem_executionOrder h, Reachable, hseeds]
    exact reaches_append
  have hapart : id ∈ ahead → id ∉ w.order :=
    fun hid => List.disjoint_of_nodup_append (executionOrder_topological h).nodup hid
  rw [hrest.mem_order] at hmem hapart
  tauto

/-- An execution order grows from its end, seed by seed. Wherever the seeds are split, it falls into
two parts. The end of it lists what the first seeds reach; this is all that the walk has placed, or
marked at all, when it comes to rest after them. Ahead stands what only the other seeds reach. So what
a seed is the first to reach comes before all that the seeds before it reach. -/
theorem executionOrder_seed_by_seed (g : Graph) {order : List String} (h : g.executionOrder = .ok order)
    (front back : List String) (hseeds : g.entryPoints ++ g.ids = front ++ back) :
    ∃ ahead placed, order = ahead ++ placed ∧
      (∀ id, id ∈ placed ↔ g.Reaches front id) ∧
      (∀ id, id ∈ ahead ↔ g.Reaches back id ∧ ¬ g.Reaches front id) ∧
      (∀ new old, g.Reaches back new → ¬ g.Reaches front new → g.Reaches front old →
        order.idxOf new < order.idxOf old) ∧
      ∃ w, g.visitAll .start front = .ok w ∧ w.order = placed ∧ w.path = [] ∧
        ∀ id mark, w.marks.get? id = some mark ↔ mark = .done ∧ g.Reaches front id := by
  obtain ⟨w, ahead, hw, hrest, rfl⟩ := executionOrder_atRest h hseeds
  have hahead (id : String) : id ∈ ahead ↔ g.Reaches back id ∧ ¬ g.Reaches front id := mem_ahead h hseeds hrest
  refine ⟨ahead, w.order, rfl, hrest.mem_order, hahead, fun new old hnew hfirst hold => ?_,
    w, hw, rfl, hrest.path, hrest.marks⟩
  have hnew : new ∈ ahead := (hahead new).2 ⟨hnew, hfirst⟩
  have hold : old ∉ ahead := fun hid => ((hahead old).1 hid).2 hold
  calc (ahead ++ w.order).idxOf new
      = ahead.idxOf new := List.idxOf_append_of_mem hnew
    _ < ahead.length := List.idxOf_lt_length_of_mem hnew
    _ ≤ ahead.length + w.order.idxOf old := Nat.le_add_right _ _
    _ = (ahead ++ w.order).idxOf old := (List.idxOf_append_of_notMem hold).symm

/-- The walk starts in the middle of a chain; the start of the chain and what only it leads to come
ahead. -/
theorem executionOrder_seed_by_seed_inward :
    let g := (ofEdges ["s", "m", "t", "u"] [("s", "m"), ("m", "t"), ("s", "u")]).addEntry "m"
    g.executionOrder = .ok ["s", "u", "m", "t"] ∧
    (∀ id, id ∈ ["m", "t"] ↔ g.Reaches ["m"] id) ∧
    (∀ id, id ∈ ["s", "u"] ↔ g.Reaches ["s", "m", "t", "u"] id ∧ ¬ g.Reaches ["m"] id) ∧
    ["s", "u", "m", "t"].idxOf "u" < ["s", "u", "m", "t"].idxOf "t" := by
  intro g
  have horder : g.executionOrder = .ok ["s", "u", "m", "t"] := by cbv
  have hwalk : (g.visitAll .start ["m"]).map Walk.order = .ok ["m", "t"] := by cbv
  obtain ⟨ahead, placed, hsplit, hfront, hback, hbefore, w, hw, rfl, -⟩ :=
    executionOrder_seed_by_seed g horder ["m"] ["s", "m", "t", "u"] (by decide)
  have hplaced : w.order = ["m", "t"] := by simpa [hw, Except.map] using hwalk
  rw [hplaced] at hsplit hfront
  obtain rfl : ["s", "u"] = ahead := List.append_cancel_right hsplit
  have hnew := (hback "u").1 (by decide)
  exact ⟨horder, hfront, hback, hbefore "u" "t" hnew.1 hnew.2 ((hfront "t").1 (by decide))⟩

end Graph

end Dataflow
