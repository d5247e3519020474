import Dataflow.Proofs.Run.Outcome
import Dataflow.Proofs.Schedule.Order
import Dataflow.Run.Sequential
/-!
# One node after the other, as a function

With stateless plugins a run in order is the function `Graph.evaluate` of the order. The
results of its first part are what the next node runs on (`evaluate_split`).
-/

namespace Dataflow.Graph

variable {g : Graph} {r : Registry}

/-- The results that the nodes of an order add to those so far, or the first failure. -/
def evaluate (g : Graph) (r : Registry) (results : Results) : List String → Except RunError Results
  | [] => .ok results
  | id :: rest =>
    match g.outcome r results id with
    | .ok outputs => evaluate g r (results.insert id outputs) rest
    | .error e => .error e

theorem runInOrderFrom_fst (hr : r.Stateless) (results : Results) (order : List String) (s : Session) :
    (g.runInOrderFrom r results order s).1 = g.evaluate r results order := by
  induction order generalizing results s with
  | nil => rfl
  | cons id rest ih =>
    unfold runInOrderFrom evaluate
    rw [Session.bind_apply, runNode_fst hr]
    cases g.outcome r results id with
    | error e => rfl
    | ok outputs => exact ih _ _

theorem runInOrder_fst (hr : r.Stateless) (order : List String) (s : Session) :
    (g.runInOrder r order s).1 = g.evaluate r ∅ order :=
  runInOrderFrom_fst hr ∅ order s

theorem evaluate_cons_ok {results results' : Results} {id : String} {rest : List String} :
    g.evaluate r results (id :: rest) = .ok results' ↔
      ∃ outputs, g.outcome r results id = .ok outputs ∧
        g.evaluate r (results.insert id outputs) rest = .ok results' := by
  simp only [evaluate]
  cases g.outcome r results id <;> simp

/-- Running an order in two parts. -/
theorem evaluate_append (results : Results) (front back : List String) :
    g.evaluate r results (front ++ back) =
      (g.evaluate r results front).bind fun results => g.evaluate r results back := by
  induction front generalizing results with
  | nil => rfl
  | cons id rest ih =>
    simp only [List.cons_append, evaluate]
    cases g.outcome r results id with
    | error e => rfl
    | ok outputs => exact ih _

theorem evaluate_append_ok {results results' : Results} {front back : List String} :
    g.evaluate r results (front ++ back) = .ok results' ↔
      ∃ before, g.evaluate r results front = .ok before ∧ g.evaluate r before back = .ok results' := by
  rw [evaluate_append, Except.bind_eq_ok_iff]

/-- A node that is not listed keeps its results. -/
theorem evaluate_get? {results results' : Results} {order : List String}
    (h : g.evaluate r results order = .ok results') {id : String} (hid : id ∉ order) :
    results'.get? id = results.get? id := by
  induction order generalizing results with
  | nil =>
    cases h
    rfl
  | cons first rest ih =>
    obtain ⟨outputs, -, h⟩ := evaluate_cons_ok.1 h
    simp only [List.mem_cons, not_or] at hid
    rw [ih h hid.2, OrderedMap.get?_insert, if_neg hid.1]

/-- The results list the nodes in the order they ran in. -/
theorem evaluate_keys {results results' : Results} {order : List String}
    (h : g.evaluate r results order = .ok results') (hn : (results.keys ++ order).Nodup) :
    results'.keys = results.keys ++ order := by
  induction order generalizing results with
  | nil =>
    cases h
    simp
  | cons first rest ih =>
    obtain ⟨outputs, -, h⟩ := evaluate_cons_ok.1 h
    have hfirst : first ∉ results.keys := fun hm => (List.nodup_append.1 hn).2.2 first hm first List.mem_cons_self rfl
    have hkeys : (results.insert first outputs).keys = results.keys ++ [first] := by
      rw [OrderedMap.keys_insert, if_neg hfirst]
    rw [ih h (by rwa [hkeys, List.append_assoc]), hkeys, List.append_assoc]
    rfl

/-- Every node of an order that runs to its end gave its results on those of the nodes before. -/
theorem evaluate_split {results results' : Results} {front back : List String} {id : String}
    (h : g.evaluate r results (front ++ id :: back) = .ok results') (hid : id ∉ back) :
    ∃ before outputs, g.evaluate r results front = .ok before ∧ g.outcome r before id = .ok outputs ∧
      results'.get? id = some outputs := by
  obtain ⟨before, hf, h⟩ := evaluate_append_ok.1 h
  obtain ⟨outputs, ho, h⟩ := evaluate_cons_ok.1 h
  refine ⟨before, outputs, hf, ho, ?_⟩
  rw [evaluate_get? h hid, OrderedMap.get?_insert, if_pos rfl]

/-- A failing run comes to a node that fails. -/
theorem evaluate_error {results : Results} {order : List String} {e : RunError}
    (h : g.evaluate r results order = .error e) :
    ∃ front id back before, order = front ++ id :: back ∧ g.evaluate r results front = .ok before ∧
      g.outcome r before id = .error e := by
  induction order generalizing results with
  | nil => cases h
  | cons id rest ih =>
    simp only [evaluate] at h
    cases ho : g.outcome r results id with
    | error e' =>
      rw [ho] at h
      cases h
      exact ⟨[], id, rest, results, rfl, rfl, ho⟩
    | ok outputs =>
      rw [ho] at h
      obtain ⟨front, id', back, before, rfl, hf, hfail⟩ := ih h
      exact ⟨id :: front, id', back, before, rfl, evaluate_cons_ok.2 ⟨outputs, ho, hf⟩, hfail⟩

end Dataflow.Graph
