import Dataflow.Proofs.Run.Tiered
/-!
# What an engine makes of a graph

With stateless plugins the envelope of a run depends on the graph and the registered plugins
only (`Engine.execute_fst`). In particular it is the same under every strategy and for every
arrangement of the tiers.
-/

namespace Dataflow

open Session

/-- The order in which a graph runs, or why it does not run at all. -/
def Graph.plan (g : Graph) (r : Registry) : Except RunError (List String) :=
  if g.problems ≠ [] then .error (.invalidGraph g.problems)
  else
    match g.referencedPlugins.find? fun plugin => !r.contains plugin with
    | some plugin => .error (.plugin (.unknownPlugin plugin))
    | none => g.executionOrder.mapError fun cycle => .cycle cycle.node cycle.path

/-- The terminal outputs of a run in order. -/
def Graph.result (g : Graph) (r : Registry) : Except RunError (SortedMap Json) :=
  (g.plan r).bind fun order => (g.evaluate r ∅ order).map g.terminalOutputs

/-- The envelope that says a result. -/
def Envelope.ofResult : Except RunError (SortedMap Json) → Envelope
  | .ok outputs => .success outputs
  | .error e => .failure e.message

theorem Envelope.ofResult_status (result : Except RunError (SortedMap Json)) :
    (Envelope.ofResult result).status = .success ↔ ∃ outputs, result = .ok outputs := by
  cases result with
  | ok outputs => exact ⟨fun _ => ⟨outputs, rfl⟩, fun _ => rfl⟩
  | error e => exact ⟨nofun, nofun⟩

namespace Engine

variable {g : Graph} {r : Registry} {e : Engine}

/-! ## Checks before a run -/

theorem checkPlugins_fst (e : Engine) (g : Graph) (plugins : List String) (s : Session) :
    (e.checkPlugins g plugins s).1 =
      match plugins.find? fun plugin => !e.registry.contains plugin with
      | some plugin => .error (.plugin (.unknownPlugin plugin))
      | none => .ok () := by
  induction plugins generalizing s with
  | nil => rfl
  | cons plugin rest ih =>
    unfold checkPlugins
    cases hc : e.registry.contains plugin with
    | false => simp [hc]; rfl
    | true =>
      simp only [hc, Bool.not_true, Bool.false_eq_true, if_false, List.find?_cons]
      -- A plugin that is not imported is only reported.
      split
      · exact ih _
      · exact ih _

theorem prepare_fst (e : Engine) (g : Graph) (s : Session) : (e.prepare g s).1 = g.plan e.registry := by
  unfold prepare Graph.plan
  by_cases hg : g.problems = []
  · simp only [hg, List.isEmpty_nil, Bool.not_true, Bool.false_eq_true, if_false, ne_eq, not_true_eq_false]
    rw [Session.bind_apply, checkPlugins_fst]
    cases g.referencedPlugins.find? fun plugin => !e.registry.contains plugin with
    | some plugin => rfl
    | none => exact Graph.schedule_fst g _
  · simp [hg]
    rfl

theorem plan_eq_ok_iff {order : List String} :
    g.plan r = .ok order ↔
      g.problems = [] ∧ (∀ plugin ∈ g.referencedPlugins, r.contains plugin) ∧ g.executionOrder = .ok order := by
  unfold Graph.plan
  by_cases hg : g.problems = []
  · cases hfind : g.referencedPlugins.find? fun plugin => !r.contains plugin with
    | some plugin =>
      have hp : r.contains plugin = false := by simpa using List.find?_some hfind
      simp only [hg, ne_eq, not_true_eq_false, if_false, reduceCtorEq, true_and, false_iff, not_and]
      intro hall
      exact absurd (hall plugin (List.mem_of_find?_eq_some hfind)) (by simp [hp])
    | none =>
      have hall : ∀ plugin ∈ g.referencedPlugins, r.contains plugin = true := by simpa using hfind
      simp only [hg, ne_eq, not_true_eq_false, if_false, true_and, Except.mapError_eq_ok_iff]
      exact ⟨fun h => ⟨hall, h⟩, And.right⟩
  · simp [hg]

/-- A graph that is run at all is well formed, and runs in its execution order. -/
theorem plan_ok {order : List String} (h : g.plan r = .ok order) :
    g.problems = [] ∧ g.executionOrder = .ok order :=
  ⟨(plan_eq_ok_iff.1 h).1, (plan_eq_ok_iff.1 h).2.2⟩

/-! ## The run -/

/-- All strategies give the same results. -/
theorem strategy_run_fst (hr : r.Stateless) (hg : g.KeyedById) {order : List String} (hn : order.Nodup)
    (hf : g.Forward order) (strategy : Strategy) (arrangement : Arrangement) (s : Session) :
    (strategy.run r g order arrangement s).1 = g.evaluate r ∅ order := by
  cases strategy with
  | sequential => exact Graph.runInOrder_fst hr order s
  | levelByLevel => exact Graph.runByTiers_fst hr hg hn hf arrangement s

theorem runPrepared_fst (hr : e.registry.Stateless) (hg : g.KeyedById) {order : List String} (hn : order.Nodup)
    (hf : g.Forward order) (s : Session) :
    (e.runPrepared g order s).1 = (g.evaluate e.registry ∅ order).map g.terminalOutputs := by
  unfold runPrepared
  simp only [Session.bind_apply, strategy_run_fst hr hg hn hf]
  cases g.evaluate e.registry ∅ order <;> rfl

theorem run_fst (hr : e.registry.Stateless) (hg : g.KeyedById) (s : Session) :
    (e.run g s).1 = g.result e.registry := by
  unfold run Graph.result
  rw [Session.bind_apply, prepare_fst]
  cases hplan : g.plan e.registry with
  | error err => rfl
  | ok order =>
    have ht := Graph.executionOrder_topological (plan_ok hplan).2
    exact runPrepared_fst hr hg ht.nodup ht.forward _

theorem conclude_fst (name : String) (result : Except RunError (SortedMap Json)) (s : Session) :
    (conclude name result s).1 = .ofResult result := by
  cases result <;> rfl

theorem execute_envelope (e : Engine) (g : Graph) (s : Session) : (e.execute g s).1 = .ofResult (e.run g s).1 :=
  conclude_fst g.name _ _

/-- The envelope of a graph is a function of the registered plugins. -/
theorem execute_fst (hr : e.registry.Stateless) (hg : g.KeyedById) (s : Session) :
    (e.execute g s).1 = .ofResult (g.result e.registry) := by
  rw [execute_envelope, run_fst hr hg]

end Engine

/-! ## Strategies -/

/-- The nodes of a tier run from the last to the first, and the last outcome is taken in first. -/
def Arrangement.backwards : Arrangement where
  nodes ids := ids.reverse
  outcomes os := os.reverse
  nodes_perm ids := ids.reverse_perm
  outcomes_perm os := os.reverse_perm

namespace Graph

variable {g : Graph} {r : Registry}

/-- A run by tiers, however they are arranged, gives what the run in order gives: the same results
in the order of the nodes, or the same error. An engine answers the same under all strategies. -/
theorem runByTiers_eq_runInOrder (hr : r.Stateless) (hg : g.KeyedById) :
    (∀ order : List String, order.Nodup → g.Forward order → ∀ arrangement s s',
      (g.runByTiers r arrangement order s).1 = (g.runInOrder r order s').1 ∧
      ∀ results, (g.runByTiers r arrangement order s).1 = .ok results → results.keys = order) ∧
    ∀ e e' : Engine, e.registry = r → e'.registry = r →
      ∀ s s', (e.execute g s).1 = (e'.execute g s').1 := by
  refine ⟨fun order hn hf arrangement s s' => ?_, ?_⟩
  · rw [runByTiers_fst hr hg hn hf, runInOrder_fst hr]
    refine ⟨rfl, fun results h => ?_⟩
    exact evaluate_keys h hn
  · rintro e e' rfl he' s s'
    rw [Engine.execute_fst hr hg, Engine.execute_fst (he' ▸ hr) hg, he']

theorem runByTiers_eq_runInOrder_undeclared :
    let g := ofEdges ["s", "l", "r", "j"] [("s", "l"), ("s", "r"), ("l", "j"), ("r", "j")]
    let e : Engine := { Engine.new {} (.ofList []) with registry := .gathering }
    (∃ results, (g.runByTiers .gathering .backwards ["s", "l", "r", "j"] (.ofSupply default)).1 = .ok results ∧
      results.keys = ["s", "l", "r", "j"]) ∧
    (g.runByTiers .gathering .backwards ["s", "x", "l", "y", "r", "j"] (.ofSupply default)).1 =
      .error (.undeclaredNode "x") ∧
    (e.execute g (.ofSupply default)).1 =
      ({ e with config.strategy := .levelByLevel, arrangement := .backwards }.execute g (.ofSupply default)).1 := by
  intro g e
  have hg : g.KeyedById := by unfold KeyedById; decide
  have hf : g.Forward ["s", "l", "r", "j"] := by unfold Forward; decide
  have hf' : g.Forward ["s", "x", "l", "y", "r", "j"] := by unfold Forward; decide
  obtain ⟨htiers, hengine⟩ := runByTiers_eq_runInOrder Registry.gathering_stateless hg
  obtain ⟨hsame, hkeys⟩ := htiers _ (by decide) hf .backwards (.ofSupply default) (.ofSupply default)
  obtain ⟨hsame', -⟩ := htiers _ (by decide) hf' .backwards (.ofSupply default) (.ofSupply default)
  obtain ⟨results, hrun⟩ : ∃ results,
      (g.runInOrder .gathering ["s", "l", "r", "j"] (.ofSupply default)).1 = .ok results := ⟨_, rfl⟩
  rw [hrun] at hsame
  refine ⟨⟨results, hsame, hkeys results hsame⟩, ?_, hengine _ _ rfl rfl _ _⟩
  rw [hsame']
  rfl

end Graph

end Dataflow
