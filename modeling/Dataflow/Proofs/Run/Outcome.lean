import Dataflow.Except
import Dataflow.Proofs.Run.Inputs
/-!
# What a node gives

With stateless plugins the outcome of a node is a function of the results so far
(`Graph.outcome`), whatever happened in the session before (`runNode_fst`). Of the results it
reads only those of the nodes that feed it (`outcome_congr`).
-/

namespace Dataflow

/-! ## Stateless plugins -/

/-- What a plugin gives for a node, asked with a supply that nothing was drawn from. -/
def Plugin.answer (p : Plugin) (node : String) (inputs : PortValues) : Except PluginError PortValues :=
  (p.run node inputs default).1

theorem Plugin.Stateless.run_fst {p : Plugin} (h : p.Stateless) (node : String) (inputs : PortValues)
    (supply : Supply) : (p.run node inputs supply).1 = p.answer node inputs := by
  obtain ⟨f, hf⟩ := h
  unfold answer
  rw [hf, hf]

/-- A step of a session takes up what the step before left. -/
theorem Session.bind_apply {α β : Type} (x : SessionM α) (f : α → SessionM β) (s : Session) :
    (x >>= f) s = f (x s).1 (x s).2 := rfl

/-- A node gives what its plugin gives, drawing from the supply that it finds. -/
theorem Node.run_fst (node : Node) (plugin : Plugin) (inputs : PortValues) (s : Session) :
    (node.run plugin inputs s).1 = (plugin.run node.type inputs s.supply).1.mapError (.nodeFailed node.id) := by
  unfold Node.run
  simp only [Session.bind_apply]
  generalize hs : (Session.clock (Session.report _ s).2).2 = s'
  have hcall : (Session.call (some node.id) plugin node.type inputs s').1 =
      (plugin.run node.type inputs s.supply).1 := by
    rw [← hs]
    rfl
  rw [hcall]
  cases (plugin.run node.type inputs s.supply).1 <;> rfl

/-- All registered plugins are stateless. -/
def Registry.Stateless (r : Registry) : Prop := ∀ name p, r.get? name = some p → p.Stateless

/-- A plugin whose nodes give all their inputs at one port. -/
def Plugin.gathering : Plugin where
  declaration := .named "basic" "1.0.0" "Gathers inputs"
  run _ inputs := pure (.ok (SortedMap.empty.insert "out" (Json.ofMap inputs)))

/-- A registry with one plugin. -/
def Registry.gathering : Registry := ⟨SortedMap.empty.insert "basic" .gathering⟩

theorem Registry.stateless_empty : Registry.empty.Stateless := fun _ _ hp => nomatch hp

theorem Registry.Stateless.insert {r : Registry} (h : r.Stateless) (name : String) {p : Plugin} (hp : p.Stateless) :
    Registry.Stateless ⟨r.plugins.insert name p⟩ := by
  intro name' p' hp'
  unfold Registry.get? at hp'
  rw [SortedMap.get?_insert] at hp'
  split at hp'
  · cases hp'
    exact hp
  · exact h name' p' hp'

theorem Plugin.gathering_stateless : Plugin.gathering.Stateless := ⟨_, fun _ _ _ => rfl⟩

theorem Registry.gathering_stateless : Registry.gathering.Stateless :=
  Registry.stateless_empty.insert "basic" Plugin.gathering_stateless

/-- A plugin whose nodes all fail. -/
def Plugin.failing : Plugin where
  declaration := .named "basic" "1.0.0" "Fails"
  run node _ := pure (.error (.nodeFailed node "out of order"))

theorem Plugin.failing_stateless : Plugin.failing.Stateless := ⟨_, fun _ _ _ => rfl⟩

/-! ## Outcomes -/

namespace Graph

variable {g : Graph} {r : Registry}

/-- What the node `id` gives on the results so far. -/
def outcome (g : Graph) (r : Registry) (results : Results) (id : String) : Outcome :=
  match g.find r id with
  | .error e => .error e
  | .ok (node, plugin) => (plugin.answer node.type (g.gatherInputs node results)).mapError (.nodeFailed node.id)

theorem find_eq_ok_iff {id : String} {node : Node} {plugin : Plugin} :
    g.find r id = .ok (node, plugin) ↔ g.nodes.get? id = some node ∧ r.get? node.plugin = some plugin := by
  unfold find
  grind

theorem plugin_mem_referencedPlugins {id : String} {node : Node} (h : g.nodes.get? id = some node) :
    node.plugin ∈ g.referencedPlugins := by
  have hm : node ∈ g.nodes.values := List.mem_map_of_mem (OrderedMap.mem_of_get? h)
  simpa only [referencedPlugins, List.mem_eraseDups] using List.mem_map_of_mem hm

theorem outcome_eq_ok_iff {results : Results} {id : String} {outputs : PortValues} :
    g.outcome r results id = .ok outputs ↔
      ∃ node plugin, g.nodes.get? id = some node ∧ r.get? node.plugin = some plugin ∧
        plugin.answer node.type (g.gatherInputs node results) = .ok outputs := by
  unfold outcome
  constructor
  · intro h
    cases hf : g.find r id with
    | error e => simp [hf] at h
    | ok found =>
      obtain ⟨node, plugin⟩ := found
      obtain ⟨hn, hp⟩ := find_eq_ok_iff.1 hf
      rw [hf] at h
      exact ⟨node, plugin, hn, hp, Except.mapError_eq_ok_iff.1 h⟩
  · rintro ⟨node, plugin, hn, hp, ha⟩
    rw [find_eq_ok_iff.2 ⟨hn, hp⟩]
    exact Except.mapError_eq_ok_iff.2 ha

/-- What a run of a node gives does not depend on the session. -/
theorem runNode_fst (hr : r.Stateless) (results : Results) (id : String) (s : Session) :
    (g.runNode r results id s).1 = g.outcome r results id := by
  unfold runNode outcome
  cases hf : g.find r id with
  | error e => rfl
  | ok found =>
    obtain ⟨node, plugin⟩ := found
    have hp : plugin.Stateless := hr _ _ (find_eq_ok_iff.1 hf).2
    exact (node.run_fst plugin _ s).trans (by rw [hp.run_fst])

theorem KeyedById.id_eq (hg : g.KeyedById) {id : String} {node : Node} (h : g.nodes.get? id = some node) :
    node.id = id :=
  hg (id, node) (OrderedMap.mem_of_get? h)

/-- Inputs come from the results of the nodes that feed a node. -/
theorem gatherInputs_congr {node : Node} {results results' : Results}
    (h : ∀ c ∈ g.connections, c.target.node = node.id → results.get? c.source.node = results'.get? c.source.node) :
    g.gatherInputs node results = g.gatherInputs node results' := by
  apply gatherInputs_of_sources
  intro c hc htarget
  rw [Results.valueAt?, h c hc htarget, Results.valueAt?]

theorem outcome_congr (hg : g.KeyedById) {results results' : Results} {id : String}
    (h : ∀ c ∈ g.connections, c.target.node = id → results.get? c.source.node = results'.get? c.source.node) :
    g.outcome r results id = g.outcome r results' id := by
  unfold outcome
  cases hf : g.find r id with
  | error e => rfl
  | ok found =>
    obtain ⟨node, plugin⟩ := found
    have hid := hg.id_eq (find_eq_ok_iff.1 hf).1
    simp only [gatherInputs_congr (hid ▸ h)]

end Graph

end Dataflow
