import Dataflow.Proofs.Run.Sequential
/-!
# Every order gives the solution of the graph

A run in order of all declared nodes ends in results that solve the dataflow equations of the
graph: the outputs of each node are what its plugin returns on inputs gathered from the final
results. There is at most one solution, and if there is one then every order finds it.
-/

namespace Dataflow.Graph

variable {g : Graph} {r : Registry}

/-! ## Dataflow equations -/

/-- The results hold outputs for the declared nodes, and the outputs of a node are what its plugin
returns for the inputs that these same results bring to it. -/
structure Solves (g : Graph) (r : Registry) (results : Results) : Prop where
  declared : ∀ id, id ∈ results.keys ↔ id ∈ g.ids
  equation : ∀ id node, g.nodes.get? id = some node →
    ∃ plugin outputs, r.get? node.plugin = some plugin ∧ results.get? id = some outputs ∧
      ∀ supply, (plugin.run node.type (g.gatherInputs node results) supply).1 = .ok outputs

theorem solves_iff (hr : r.Stateless) {results : Results} :
    g.Solves r results ↔ (∀ id, id ∈ results.keys ↔ id ∈ g.ids) ∧
      ∀ id ∈ g.ids, ∃ outputs, results.get? id = some outputs ∧ g.outcome r results id = .ok outputs := by
  constructor
  · rintro ⟨hd, he⟩
    refine ⟨hd, fun id hid => ?_⟩
    obtain ⟨node, hnode⟩ := OrderedMap.mem_keys_iff.1 hid
    obtain ⟨plugin, outputs, hp, ho, ha⟩ := he id node hnode
    exact ⟨outputs, ho, outcome_eq_ok_iff.2 ⟨node, plugin, hnode, hp, ha default⟩⟩
  · rintro ⟨hd, he⟩
    refine ⟨hd, fun id node hnode => ?_⟩
    obtain ⟨outputs, ho, hout⟩ := he id (OrderedMap.mem_keys_iff.2 ⟨node, hnode⟩)
    obtain ⟨node', plugin, hnode', hp, ha⟩ := outcome_eq_ok_iff.1 hout
    cases hnode.symm.trans hnode'
    exact ⟨plugin, outputs, hp, ho, fun supply => (hr _ _ hp).run_fst _ _ supply ▸ ha⟩

/-! ## From a run to a solution -/

/-- What is written after a node ran does not change what its plugin returns. -/
theorem outcome_evaluate (hg : g.KeyedById) {front back : List String} {id : String}
    (hn : (front ++ id :: back).Nodup) (hf : g.Forward (front ++ id :: back)) {before results : Results}
    (hfront : g.evaluate r ∅ front = .ok before) (h : g.evaluate r ∅ (front ++ id :: back) = .ok results) :
    g.outcome r results id = g.outcome r before id := by
  apply outcome_congr hg
  intro c hc ht
  obtain ⟨before', hfront', hback⟩ := evaluate_append_ok.1 h
  cases hfront.symm.trans hfront'
  refine evaluate_get? hback fun hm => ?_
  have hsource := hf.mem_front hn hc ht (List.mem_append_right _ hm)
  exact (List.nodup_append.1 hn).2.2 _ hsource _ hm rfl

theorem solves_of_evaluate (hr : r.Stateless) (hg : g.KeyedById) {order : List String} (hp : order.Perm g.ids)
    (hf : g.Forward order) {results : Results} (h : g.evaluate r ∅ order = .ok results) : g.Solves r results := by
  have hn : order.Nodup := hp.nodup_iff.2 g.nodup_ids
  have hkeys : results.keys = order := evaluate_keys h hn
  rw [solves_iff hr]
  refine ⟨fun id => by rw [hkeys, hp.mem_iff], fun id hid => ?_⟩
  obtain ⟨front, back, rfl⟩ := List.append_of_mem (hp.mem_iff.2 hid)
  obtain ⟨before, outputs, hfront, ho, hget⟩ := evaluate_split h (notMem_parts hn).2
  exact ⟨outputs, hget, (outcome_evaluate hg hn hf hfront h).trans ho⟩

/-! ## From a solution to a run -/

/-- With a solution at hand every node of an order gives its part of the solution: the nodes in
front of it hold theirs, and nothing else feeds it. -/
theorem evaluate_of_solves (hr : r.Stateless) (hg : g.KeyedById) {solution : Results}
    (hs : g.Solves r solution) {front back : List String} (hp : (front ++ back).Perm g.ids)
    (hf : g.Forward (front ++ back)) {results : Results}
    (hres : ∀ id, results.get? id = if id ∈ front then solution.get? id else none) :
    ∃ results', g.evaluate r results back = .ok results' ∧ ∀ id, results'.get? id = solution.get? id := by
  obtain ⟨hd, he⟩ := (solves_iff hr).1 hs
  have hn : (front ++ back).Nodup := hp.nodup_iff.2 g.nodup_ids
  have hnone : ∀ id, id ∉ front ++ back → solution.get? id = none := by
    intro id hid
    rw [OrderedMap.get?_eq_none_iff, hd, ← hp.mem_iff]
    exact hid
  -- The induction is on the nodes still to run. It moves them to `front`, one by one.
  induction back generalizing front results with
  | nil =>
    refine ⟨results, rfl, fun id => ?_⟩
    rw [hres]
    split
    · rfl
    · exact (hnone id (by simpa)).symm
  | cons id rest ih =>
    have happ : front ++ id :: rest = front ++ [id] ++ rest := by simp
    obtain ⟨outputs, hget, hout⟩ := he id (hp.mem_iff.1 (by simp))
    have hsame : g.outcome r results id = .ok outputs := by
      rw [← hout]
      apply outcome_congr hg
      intro c hc ht
      rw [hres]
      split
      · rfl
      · rename_i hsource
        exact (hnone _ fun hm => hsource (hf.mem_front hn hc ht hm)).symm
    have hinsert : ∀ x, (results.insert id outputs).get? x = if x ∈ front ++ [id] then solution.get? x else none := by
      intro x
      rw [OrderedMap.get?_insert, hres]
      by_cases hx : x = id <;> simp [hx, hget]
    rw [happ] at hp hf hn hnone
    obtain ⟨results', hrun, hall⟩ := ih hp hf hinsert hn hnone
    exact ⟨results', evaluate_cons_ok.2 ⟨outputs, hsame, hrun⟩, hall⟩

/-- An order finds every solution. -/
theorem evaluate_order_of_solves (hr : r.Stateless) (hg : g.KeyedById) {order : List String}
    (hp : order.Perm g.ids) (hf : g.Forward order) {solution : Results} (hs : g.Solves r solution) :
    ∃ results, g.evaluate r ∅ order = .ok results ∧ ∀ id, results.get? id = solution.get? id := by
  have hp' : ([] ++ order).Perm g.ids := hp
  exact evaluate_of_solves hr hg hs hp' hf fun id => rfl

theorem evaluate_error_iff (hr : r.Stateless) (hg : g.KeyedById) {order : List String} (hp : order.Perm g.ids)
    (hf : g.Forward order) : (∃ e, g.evaluate r ∅ order = .error e) ↔ ¬ ∃ solution, g.Solves r solution := by
  cases h : g.evaluate r ∅ order with
  | ok results => simpa using ⟨results, solves_of_evaluate hr hg hp hf h⟩
  | error e =>
    simp only [Except.error.injEq, exists_eq', true_iff, not_exists]
    intro solution hs
    obtain ⟨results, hok, -⟩ := evaluate_order_of_solves hr hg hp hf hs
    cases h.symm.trans hok

/-- The results of a run of all nodes solve the dataflow equations of the graph and are their only
solution. Every other order of the nodes gives the same outputs, or fails if this one does. -/
theorem runInOrder_confluent (hr : r.Stateless) (hg : g.KeyedById) {order order' : List String}
    (hp : order.Perm g.ids) (hf : g.Forward order) (hp' : order'.Perm g.ids) (hf' : g.Forward order')
    (s s' : Session) :
    (∀ results, (g.runInOrder r order s).1 = .ok results →
      g.Solves r results ∧
      (∀ solution, g.Solves r solution → ∀ id, solution.get? id = results.get? id) ∧
      ∃ results', (g.runInOrder r order' s').1 = .ok results' ∧ ∀ id, results'.get? id = results.get? id) ∧
    ((∃ e, (g.runInOrder r order s).1 = .error e) ↔ ∃ e, (g.runInOrder r order' s').1 = .error e) := by
  simp only [runInOrder_fst hr]
  refine ⟨fun results h => ?_, ?_⟩
  · have hs := solves_of_evaluate hr hg hp hf h
    refine ⟨hs, fun solution hsol id => ?_, evaluate_order_of_solves hr hg hp' hf' hs⟩
    obtain ⟨found, hfound, hall⟩ := evaluate_order_of_solves hr hg hp hf hsol
    cases h.symm.trans hfound
    exact (hall id).symm
  · rw [evaluate_error_iff hr hg hp hf, evaluate_error_iff hr hg hp' hf']

theorem runInOrder_confluent_diamond :
    let g := ofEdges ["s", "l", "r", "j"] [("s", "l"), ("s", "r"), ("l", "j"), ("r", "j")]
    ∃ results results',
      (g.runInOrder .gathering ["s", "l", "r", "j"] (.ofSupply default)).1 = .ok results ∧
      (g.runInOrder .gathering ["s", "r", "l", "j"] (.ofSupply default)).1 = .ok results' ∧
      g.Solves .gathering results ∧ ∀ id, results'.get? id = results.get? id := by
  intro g
  have hg : g.KeyedById := by unfold KeyedById; decide
  have hf : g.Forward ["s", "l", "r", "j"] := by unfold Forward; decide
  have hf' : g.Forward ["s", "r", "l", "j"] := by unfold Forward; decide
  obtain ⟨results, h⟩ : ∃ results,
      (g.runInOrder .gathering ["s", "l", "r", "j"] (.ofSupply default)).1 = .ok results := ⟨_, rfl⟩
  obtain ⟨hs, -, results', h', hsame⟩ := (runInOrder_confluent Registry.gathering_stateless hg
    (by decide) hf (by decide) hf' (.ofSupply default) (.ofSupply default)).1 results h
  exact ⟨results, results', h, h', hs, hsame⟩

end Dataflow.Graph
