import Dataflow.Schedule.Order
import Mathlib.Data.List.Chain
import Mathlib.Logic.Relation
/-!
# The invariant of the walk

`Walk.Sound` holds of a walk at every point: the nodes in progress are the path, without
repetition and joined by connections, and the nodes that are done are placed before their
consumers. `visitAll_visited` says what a visit that comes to its end has done, and
`pending_sound` carries the invariant to every visit the walk of a graph makes.
-/

namespace Dataflow

open Relation

/-! ## Placed nodes -/

/-- Every node stands once, and all its consumers stand behind it. -/
inductive Graph.Topological (g : Graph) : List String → Prop
  | nil : g.Topological []
  | cons {node : String} {rest : List String} :
      node ∉ rest → (∀ c, g.Joins node c → c ∈ rest) → g.Topological rest → g.Topological (node :: rest)

namespace Graph.Topological

variable {g : Graph} {order : List String}

theorem nodup (h : g.Topological order) : order.Nodup := by
  induction h with
  | nil => exact .nil
  | cons hn _ _ ih => exact List.nodup_cons.2 ⟨hn, ih⟩

/-- A consumer of a placed node is placed behind it. -/
theorem lt (h : g.Topological order) {a b : String} (ha : a ∈ order) (hab : g.Joins a b) :
    b ∈ order ∧ order.idxOf a < order.idxOf b := by
  induction h with
  | nil => cases ha
  | @cons node rest hn hc _ ih =>
    have behind : ∀ x ∈ rest, (node :: rest).idxOf x = rest.idxOf x + 1 := by
      intro x hx
      exact List.idxOf_cons_ne _ fun e => hn (e ▸ hx)
    rcases List.mem_cons.1 ha with rfl | ha
    · have hb := hc b hab
      exact ⟨List.mem_cons_of_mem _ hb, by rw [behind b hb, List.idxOf_cons_self]; omega⟩
    · obtain ⟨hb, hlt⟩ := ih ha
      exact ⟨List.mem_cons_of_mem _ hb, by rw [behind a ha, behind b hb]; omega⟩

/-- Placed nodes lie on no cycle. -/
theorem not_transGen (h : g.Topological order) {a : String} (ha : a ∈ order) : ¬ TransGen g.Joins a a := by
  have far : ∀ b, TransGen g.Joins a b → b ∈ order ∧ order.idxOf a < order.idxOf b := by
    intro b hab
    induction hab with
    | single hab => exact h.lt ha hab
    | tail _ hbc ih =>
      obtain ⟨hc, hlt⟩ := h.lt ih.1 hbc
      exact ⟨hc, ih.2.trans hlt⟩
  intro haa
  exact Nat.lt_irrefl _ (far a haa).2

end Graph.Topological

/-! ## The invariant -/

namespace Walk

variable {g : Graph} {w : Walk} {node : String}

/-- What holds of a walk at every point. -/
structure Sound (g : Graph) (w : Walk) : Prop where
  done_iff : ∀ id, w.marks.get? id = some .done ↔ id ∈ w.order
  inProgress_iff : ∀ id, w.marks.get? id = some .inProgress ↔ id ∈ w.path
  nodup : w.path.Nodup
  chain : w.path.IsChain g.Joins
  topological : g.Topological w.order

/-- The node where the walk is feeds all of these. -/
def Feeds (g : Graph) (w : Walk) (nodes : List String) : Prop :=
  ∀ node ∈ nodes, ∀ last ∈ w.path.getLast?, g.Joins last node

theorem sound_start (g : Graph) : start.Sound g where
  done_iff id := by simp [start, OrderedMap.get?, EmptyCollection.emptyCollection]
  inProgress_iff id := by simp [start, OrderedMap.get?, EmptyCollection.emptyCollection]
  nodup := .nil
  chain := .nil
  topological := .nil

theorem sound_enter (hw : w.Sound g) (h : w.marks.get? node = none) (hf : ∀ last ∈ w.path.getLast?, g.Joins last node) :
    (w.enter node).Sound g where
  done_iff id := by
    have := hw.done_iff id
    by_cases hid : id = node <;> simp_all [enter, OrderedMap.get?_insert]
  inProgress_iff id := by
    have := hw.inProgress_iff id
    by_cases hid : id = node <;> simp_all [enter, OrderedMap.get?_insert]
  nodup := by
    have hn : node ∉ w.path := by simp [← hw.inProgress_iff, h]
    exact List.nodup_append.2 ⟨hw.nodup, by simp, by simpa using fun a ha => (ne_of_mem_of_not_mem ha hn)⟩
  chain := List.isChain_append.2 ⟨hw.chain, .singleton _, by simpa using hf⟩
  topological := hw.topological

theorem sound_leave (hw : w.Sound g) {path : List String} (hp : w.path = path ++ [node])
    (hc : ∀ c, g.Joins node c → c ∈ w.order) : (w.leave node).Sound g := by
  have hn : node ∉ path := by
    have := hp ▸ hw.nodup
    simp only [List.nodup_append, List.mem_singleton, forall_eq] at this
    exact fun h => this.2.2 node h rfl
  have hpath : (w.leave node).path = path := by simp [leave, hp]
  have hmark : w.marks.get? node = some .inProgress := (hw.inProgress_iff node).2 (by simp [hp])
  constructor
  case done_iff =>
    intro id
    have := hw.done_iff id
    by_cases hid : id = node <;> simp_all [leave, OrderedMap.get?_insert]
  case inProgress_iff =>
    intro id
    have := hw.inProgress_iff id
    by_cases hid : id = node <;> simp_all [leave, OrderedMap.get?_insert]
  case nodup => exact hpath ▸ (List.nodup_append.1 (hp ▸ hw.nodup)).1
  case chain => exact hpath ▸ (List.isChain_append.1 (hp ▸ hw.chain)).1
  case topological =>
    refine .cons (fun h => ?_) hc hw.topological
    rw [← hw.done_iff, hmark] at h
    cases h

/-- Where a walk stands at no node, any nodes may come next. -/
theorem feeds_of_path_eq_nil (h : w.path = []) (nodes : List String) : w.Feeds g nodes := by
  intro node _ last hl
  rw [h] at hl
  cases hl

theorem feeds_start (g : Graph) (nodes : List String) : start.Feeds g nodes := feeds_of_path_eq_nil rfl nodes

theorem feeds_enter (w : Walk) (node : String) : (w.enter node).Feeds g (g.dependents node) := by
  intro c hc last hl
  have hlast : last = node := by simpa [enter, eq_comm] using hl
  exact hlast ▸ Graph.mem_dependents.1 hc

theorem Feeds.tail {rest : List String} (h : w.Feeds g (node :: rest)) : w.Feeds g rest :=
  fun id hid => h id (List.mem_cons_of_mem _ hid)

end Walk

/-! ## What a visit does -/

/-- What the visit of some nodes has done when it comes to its end. -/
structure Graph.Visited (g : Graph) (w : Walk) (nodes : List String) (w' : Walk) : Prop where
  sound : w'.Sound g
  path : w'.path = w.path
  suffix : w.order <:+ w'.order
  placed : ∀ node ∈ nodes, node ∈ w'.order
  reached : ∀ id ∈ w'.order, id ∈ w.order ∨ ∃ node ∈ nodes, ReflTransGen g.Joins node id

namespace Graph

variable {g : Graph}

theorem Visited.path_leave {w inner : Walk} {node : String}
    (h : g.Visited (w.enter node) (g.dependents node) inner) : (inner.leave node).path = w.path := by
  rw [Walk.leave, h.path]
  simp [Walk.enter]

theorem Visited.sound_leave {w inner : Walk} {node : String}
    (h : g.Visited (w.enter node) (g.dependents node) inner) : (inner.leave node).Sound g :=
  Walk.sound_leave h.sound h.path fun c hc => h.placed c (mem_dependents.2 hc)

theorem Visited.feeds_leave {w inner : Walk} {node : String} {rest : List String}
    (h : g.Visited (w.enter node) (g.dependents node) inner) (hf : w.Feeds g rest) :
    (inner.leave node).Feeds g rest := by
  rw [Walk.Feeds, h.path_leave]
  exact hf

/-- A node is placed after the visit of its consumers, and the visit goes on. -/
theorem Visited.cons {w inner last : Walk} {node : String} {rest : List String}
    (hi : g.Visited (w.enter node) (g.dependents node) inner) (hl : g.Visited (inner.leave node) rest last) :
    g.Visited w (node :: rest) last where
  sound := hl.sound
  path := hl.path.trans hi.path_leave
  suffix := (hi.suffix.trans (List.suffix_cons node _)).trans hl.suffix
  placed := by
    intro id hid
    rcases List.mem_cons.1 hid with rfl | hid
    · exact hl.suffix.subset List.mem_cons_self
    · exact hl.placed id hid
  reached := by
    intro id hid
    rcases hl.reached id hid with hid | ⟨n, hn, hr⟩
    · rcases List.mem_cons.1 hid with rfl | hid
      · exact .inr ⟨id, List.mem_cons_self, .refl⟩
      · rcases hi.reached id hid with hid | ⟨c, hc, hr⟩
        · exact .inl hid
        · exact .inr ⟨node, List.mem_cons_self, .head (mem_dependents.1 hc) hr⟩
    · exact .inr ⟨n, List.mem_cons_of_mem _ hn, hr⟩

/-- A visit places what the nodes reach. -/
theorem Visited.mem_order {w w' : Walk} {nodes : List String} (h : g.Visited w nodes w') (id : String) :
    id ∈ w'.order ↔ id ∈ w.order ∨ ∃ node ∈ nodes, ReflTransGen g.Joins node id := by
  refine ⟨h.reached id, ?_⟩
  -- The nodes are placed, and the consumers of a placed node are placed behind it.
  rintro (hid | ⟨node, hn, hr⟩)
  · exact h.suffix.subset hid
  · induction hr with
    | refl => exact h.placed node hn
    | tail _ hab ih => exact (h.sound.topological.lt ih hab).1

theorem visitAll_visited {w w' : Walk} {nodes : List String} (hw : w.Sound g) (hf : w.Feeds g nodes)
    (h : g.visitAll w nodes = .ok w') : g.Visited w nodes w' := by
  induction w, nodes using visitAll_induct g generalizing w' with
  | nil w =>
    simp only [visitAll_nil, Except.ok.injEq] at h
    subst h
    exact ⟨hw, rfl, List.suffix_rfl, by simp, fun id hid => .inl hid⟩
  | done w node rest hd ih =>
    rw [visitAll_done hd] at h
    have hv := ih hw hf.tail h
    have hn : node ∈ w'.order := hv.suffix.subset ((hw.done_iff node).1 hd)
    refine ⟨hv.sound, hv.path, hv.suffix, by simpa [hn] using hv.placed, fun id hid => ?_⟩
    rcases hv.reached id hid with hid | ⟨n, hn, hr⟩
    · exact .inl hid
    · exact .inr ⟨n, List.mem_cons_of_mem _ hn, hr⟩
  | inProgress w node rest hp =>
    rw [visitAll_inProgress hp] at h
    cases h
  | unmarked w node rest hn inside after =>
    -- The consumers are visited from the walk that entered `node`, the rest from the one that left it.
    rw [visitAll_unmarked hn] at h
    obtain ⟨inner, hi, h⟩ := Except.bind_eq_ok_iff.1 h
    have hvi := inside (Walk.sound_enter hw hn (hf node List.mem_cons_self)) (Walk.feeds_enter w node) hi
    exact hvi.cons (after inner hi (hvi.sound_leave) (hvi.feeds_leave hf.tail) h)

/-! ## The visits of a walk -/

/-- To visit some nodes means to visit some others, in a walk that went on. -/
inductive Calls (g : Graph) : Walk × List String → Walk × List String → Prop
  | skip {w : Walk} {node : String} {rest : List String} :
      w.marks.get? node = some .done → g.Calls (w, node :: rest) (w, rest)
  | inside {w : Walk} {node : String} {rest : List String} :
      w.marks.get? node = none → g.Calls (w, node :: rest) (w.enter node, g.dependents node)
  | after {w inner : Walk} {node : String} {rest : List String} :
      w.marks.get? node = none → g.visitAll (w.enter node) (g.dependents node) = .ok inner →
      g.Calls (w, node :: rest) (inner.leave node, rest)

/-- No walk goes on for ever. -/
theorem wellFounded_calls (g : Graph) : WellFounded fun b a => g.Calls a b := by
  let size (a : Walk × List String) : Nat × Nat := ((g.unmarked a.1).length, a.2.length)
  refine Subrelation.wf (r := InvImage (Prod.Lex Nat.lt Nat.lt) size) ?_
    (InvImage.wf size (Prod.lex Nat.lt_wfRel Nat.lt_wfRel).wf)
  intro b a h
  cases h with
  | skip => exact .right _ (Nat.lt_succ_self _)
  | @inside w node rest h =>
    rcases hd : g.dependents node with _ | ⟨c, cs⟩
    · exact .right' _ (unmarked_le (w.keeps_enter node)) (Nat.succ_pos _)
    · exact .left _ _ (unmarked_enter_lt (mem_producers (hd ▸ List.mem_cons_self)) h)
  | @after w inner node rest h hi =>
    have hk := ((w.keeps_enter node).trans (keeps_visitAll hi)).trans (inner.keeps_leave node)
    exact .right' _ (unmarked_le hk) (Nat.lt_succ_self _)

/-- A node that can be reached along connections from where the walk starts. -/
def Reachable (g : Graph) (id : String) : Prop := ∃ seed ∈ g.seeds, ReflTransGen g.Joins seed id

/-- The walk of the graph comes to visit these nodes. -/
def Pending (g : Graph) (w : Walk) (nodes : List String) : Prop :=
  ReflTransGen g.Calls (.start, g.seeds) (w, nodes)

/-- Every visit starts from a sound walk and leads to reachable nodes only. -/
theorem pending_sound {w : Walk} {nodes : List String} (h : g.Pending w nodes) :
    w.Sound g ∧ w.Feeds g nodes ∧ ∀ node ∈ nodes, g.Reachable node := by
  unfold Pending at h
  generalize hb : (w, nodes) = b at h
  induction h generalizing w nodes with
  | refl =>
    cases hb
    exact ⟨Walk.sound_start g, Walk.feeds_start g _, fun node hn => ⟨node, hn, .refl⟩⟩
  | tail _ hc ih =>
    cases hc with
    | skip _ =>
      cases hb
      obtain ⟨hs, hf, hr⟩ := ih rfl
      exact ⟨hs, hf.tail, fun id hid => hr id (List.mem_cons_of_mem _ hid)⟩
    | @inside w node rest hn =>
      cases hb
      obtain ⟨hs, hf, hr⟩ := ih rfl
      refine ⟨Walk.sound_enter hs hn (hf node List.mem_cons_self), Walk.feeds_enter w node, fun c hc => ?_⟩
      obtain ⟨seed, hseed, hr⟩ := hr node List.mem_cons_self
      exact ⟨seed, hseed, hr.tail (mem_dependents.1 hc)⟩
    | @after w inner node rest hn hi =>
      cases hb
      obtain ⟨hs, hf, hr⟩ := ih rfl
      have hv := visitAll_visited (Walk.sound_enter hs hn (hf node List.mem_cons_self)) (Walk.feeds_enter w node) hi
      exact ⟨hv.sound_leave, hv.feeds_leave hf.tail, fun id hid => hr id (List.mem_cons_of_mem _ hid)⟩

/-- A visit that finds a cycle came to a node in progress. -/
theorem visitAll_error {w : Walk} {nodes : List String} {cycle : Cycle} (h : g.visitAll w nodes = .error cycle) :
    ∃ w' node rest, ReflTransGen g.Calls (w, nodes) (w', node :: rest) ∧
      w'.marks.get? node = some .inProgress ∧ cycle = w'.close node := by
  induction w, nodes using visitAll_induct g with
  | nil w => simp at h
  | done w node rest hd ih =>
    rw [visitAll_done hd] at h
    obtain ⟨w', n, rest', hc, hfound⟩ := ih h
    exact ⟨w', n, rest', .head (.skip hd) hc, hfound⟩
  | inProgress w node rest hp =>
    rw [visitAll_inProgress hp] at h
    cases h
    exact ⟨w, node, rest, .refl, hp, rfl⟩
  | unmarked w node rest hn inside after =>
    rw [visitAll_unmarked hn] at h
    rcases Except.bind_eq_error_iff.1 h with hi | ⟨inner, hi, h⟩
    · obtain ⟨w', n, rest', hc, hfound⟩ := inside hi
      exact ⟨w', n, rest', .head (.inside hn) hc, hfound⟩
    · obtain ⟨w', n, rest', hc, hfound⟩ := after inner hi h
      exact ⟨w', n, rest', .head (.after hn hi) hc, hfound⟩

end Graph

end Dataflow
