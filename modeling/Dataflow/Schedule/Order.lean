import Dataflow.Except
import Dataflow.Graph.Consumers
/-!
# Execution order

`Graph.executionOrder` lists the nodes of a graph so that every producer stands before its
consumers. It walks from each entry point, and then from each declared node, to the consumers
of a node before it places the node in front of what is placed already. A walk that comes back
to a node on its own path has found a cycle.

The walk marks the nodes it comes to and never takes a mark away, so that every step into a
node that feeds others leaves fewer of those unmarked.
-/

namespace Dataflow

/-- A way along connections that ends where it starts. -/
structure Cycle where
  /-- The node where the walk came back to its path. -/
  node : String
  /-- The nodes of the cycle in order; the first is repeated at the end. -/
  path : List String
deriving DecidableEq

/-- How far a walk is with a node. -/
inductive Mark where
  /-- The node is on the path. -/
  | inProgress
  /-- The node and all that can be reached from it are placed. -/
  | done
deriving DecidableEq

/-- Where a walk through a graph stands. -/
structure Walk where
  marks : OrderedMap Mark
  /-- The nodes on the way to where the walk is. -/
  path : List String
  /-- The nodes placed so far. -/
  order : List String

namespace Walk

/-- The walk before it comes to any node. -/
def start : Walk := ⟨∅, [], []⟩

/-- Goes on to a node. -/
def enter (w : Walk) (node : String) : Walk :=
  ⟨w.marks.insert node .inProgress, w.path ++ [node], w.order⟩

/-- Goes back from a node and places it. -/
def leave (w : Walk) (node : String) : Walk :=
  ⟨w.marks.insert node .done, w.path.dropLast, node :: w.order⟩

/-- The cycle that a walk closes when it comes back to a node: its path from that node on. A node
that the path misses would stand for the whole path. -/
def close (w : Walk) (node : String) : Cycle :=
  ⟨node, w.path.drop ((w.path.idxOf? node).getD 0) ++ [node]⟩

/-- Every node that `w` came to is marked in `w'` too. -/
def Keeps (w w' : Walk) : Prop := ∀ id, w.marks.contains id → w'.marks.contains id

theorem Keeps.trans {w₁ w₂ w₃ : Walk} (h : w₁.Keeps w₂) (h' : w₂.Keeps w₃) : w₁.Keeps w₃ :=
  fun id hid => h' id (h id hid)

theorem keeps_enter (w : Walk) (node : String) : w.Keeps (w.enter node) := by
  intro id h
  simp [enter, h]

theorem keeps_leave (w : Walk) (node : String) : w.Keeps (w.leave node) := by
  intro id h
  simp [leave, h]

/-- A walk that went on from `w`. -/
def Onward (w : Walk) : Type := { w' : Walk // w.Keeps w' }

end Walk

namespace Graph

/-- The nodes that feed others, each once. -/
def producers (g : Graph) : List String := (g.connections.map (·.source.node)).eraseDups

/-- The nodes that a walk starts from, in order. -/
def seeds (g : Graph) : List String := g.entryPoints ++ g.ids

/-- The producers that a walk did not come to yet. -/
def unmarked (g : Graph) (w : Walk) : List String :=
  g.producers.filter fun id => !w.marks.contains id

/-- A node with consumers is a producer. -/
theorem mem_producers {g : Graph} {a b : String} (h : b ∈ g.dependents a) : a ∈ g.producers := by
  obtain ⟨c, hc, ha, -⟩ := mem_dependents.1 h
  simp only [producers, List.mem_eraseDups, List.mem_map]
  exact ⟨c, hc, ha⟩

theorem unmarked_keeps {g : Graph} {w w' : Walk} (h : w.Keeps w') :
    g.unmarked w' = (g.unmarked w).filter fun id => !w'.marks.contains id := by
  simp only [unmarked, List.filter_filter]
  refine List.filter_congr fun id _ => ?_
  have := h id
  cases hw : w.marks.contains id <;> simp_all

/-- Going on leaves no more producers unmarked. -/
theorem unmarked_le {g : Graph} {w w' : Walk} (h : w.Keeps w') :
    (g.unmarked w').length ≤ (g.unmarked w).length := by
  rw [unmarked_keeps h]
  exact List.length_filter_le _ _

/-- Entering a producer leaves fewer of them unmarked. -/
theorem unmarked_enter_lt {g : Graph} {w : Walk} {node : String} (hp : node ∈ g.producers)
    (hw : w.marks.get? node = none) :
    (g.unmarked (w.enter node)).length < (g.unmarked w).length := by
  rw [unmarked_keeps (w.keeps_enter node), List.length_filter_lt_length_iff_exists]
  refine ⟨node, List.mem_filter.2 ⟨hp, ?_⟩, ?_⟩
  · simp [OrderedMap.contains, hw]
  · simp [Walk.enter]

/-- Goes from each of the given nodes, unless it has a mark, to all that it reaches. Meeting a
node in progress closes a cycle. -/
def walkOn (g : Graph) (w : Walk) : List String → Except Cycle w.Onward
  | [] => .ok ⟨w, fun _ h => h⟩
  | node :: rest =>
    match _h : w.marks.get? node with
    | some .done => walkOn g w rest
    | some .inProgress => .error (w.close node)
    | none => do
      let inner ← walkOn g (w.enter node) (g.dependents node)
      let onward := ((w.keeps_enter node).trans inner.2).trans (inner.1.keeps_leave node)
      let last ← walkOn g (inner.1.leave node) rest
      return ⟨last.1, onward.trans last.2⟩
termination_by nodes => ((g.unmarked w).length, nodes.length)
decreasing_by
  · exact .right _ (by simp)
  · -- A node without consumers may be no producer, but then nothing is left to visit.
    rcases hd : g.dependents node with _ | ⟨c, rest⟩
    · exact .right' _ (unmarked_le (w.keeps_enter node)) (by simp)
    · exact .left _ _ (unmarked_enter_lt (mem_producers (hd ▸ List.mem_cons_self)) _h)
  · exact .right' _ (unmarked_le onward) (by simp)

/-- Goes to all that can be reached from the given nodes. -/
def visitAll (g : Graph) (w : Walk) (nodes : List String) : Except Cycle Walk :=
  (g.walkOn w nodes).map Subtype.val

/-- An order of all reachable and all declared nodes in which producers precede consumers, or a cycle. -/
def executionOrder (g : Graph) : Except Cycle (List String) :=
  (g.visitAll .start g.seeds).map Walk.order

@[simp] theorem visitAll_nil (g : Graph) (w : Walk) : g.visitAll w [] = .ok w := by
  simp [visitAll, walkOn, Except.map]

theorem visitAll_done {g : Graph} {w : Walk} {node : String} (h : w.marks.get? node = some .done)
    (rest : List String) : g.visitAll w (node :: rest) = g.visitAll w rest := by
  unfold visitAll
  conv => lhs; rw [walkOn]
  split <;> simp_all

theorem visitAll_inProgress {g : Graph} {w : Walk} {node : String}
    (h : w.marks.get? node = some .inProgress) (rest : List String) :
    g.visitAll w (node :: rest) = .error (w.close node) := by
  unfold visitAll
  rw [walkOn]
  split <;> simp_all [Except.map]

theorem visitAll_unmarked {g : Graph} {w : Walk} {node : String} (h : w.marks.get? node = none)
    (rest : List String) :
    g.visitAll w (node :: rest) =
      (g.visitAll (w.enter node) (g.dependents node)).bind fun inner =>
        g.visitAll (inner.leave node) rest := by
  unfold visitAll
  conv => lhs; rw [walkOn]
  split
  · simp_all
  · simp_all
  · cases g.walkOn (w.enter node) (g.dependents node) with
    | error c => rfl
    | ok inner =>
      simp only [Except.map, Except.bind, bind]
      cases g.walkOn (inner.1.leave node) rest <;> rfl

/-- A visit keeps all marks. -/
theorem keeps_visitAll {g : Graph} {w w' : Walk} {nodes : List String}
    (h : g.visitAll w nodes = .ok w') : w.Keeps w' := by
  obtain ⟨onward, -, rfl⟩ := Except.map_eq_ok_iff.1 h
  exact onward.2

/-- Induction along a visit: what holds of the visits that a visit makes holds of the visit. -/
@[elab_as_elim]
theorem visitAll_induct (g : Graph) {motive : Walk → List String → Prop}
    (nil : ∀ w, motive w [])
    (done : ∀ w node rest, w.marks.get? node = some .done → motive w rest → motive w (node :: rest))
    (inProgress : ∀ w node rest, w.marks.get? node = some .inProgress → motive w (node :: rest))
    (unmarked : ∀ w node rest, w.marks.get? node = none →
      motive (w.enter node) (g.dependents node) →
      (∀ inner, g.visitAll (w.enter node) (g.dependents node) = .ok inner →
        motive (inner.leave node) rest) → motive w (node :: rest))
    (w : Walk) (nodes : List String) : motive w nodes :=
  walkOn.induct g motive nil done inProgress
    (fun w node rest h inside after =>
      unmarked w node rest h inside fun inner hi => after ⟨inner, keeps_visitAll hi⟩) w nodes

end Graph

end Dataflow
