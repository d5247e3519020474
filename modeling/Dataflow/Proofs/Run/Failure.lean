import Dataflow.Proofs.Run.Calls
import Dataflow.Proofs.Schedule.Tier
/-!
# A failing run shows the call that failed

If every node of an order is declared and its plugin registered, then a run of the order can only
fail because a plugin that it called gave an error (`Strategy.run_does`). Nothing is assumed of
the plugins here: they may draw from the supply.
-/

namespace Dataflow

open Session

/-! ## Taking in outcomes -/

namespace Progress

theorem failure_take {p : Progress} {id : String} {place place' : Nat} {o : Outcome} {err : RunError}
    (h : (p.take id place o).failure? = some (place', err)) : p.failure? = some (place', err) ∨ o = .error err := by
  unfold take at h
  cases o with
  | ok outputs => exact .inl h
  | error e =>
    simp only at h
    split at h
    · cases h
      exact .inr rfl
    · exact .inl h

/-- A failure is an old one or one of those taken in. -/
theorem failure_foldl_take {order : List String} {os : List (String × Outcome)} {p : Progress} {place : Nat}
    {err : RunError}
    (h : (os.foldl (fun p (id, outcome) => p.take id (placeIn order id) outcome) p).failure? = some (place, err)) :
    p.failure? = some (place, err) ∨ ∃ id, (id, .error err) ∈ os := by
  induction os generalizing p with
  | nil => exact .inl h
  | cons x rest ih =>
    obtain ⟨id, o⟩ := x
    rcases ih h with h | ⟨id', hm⟩
    · rcases failure_take h with h | rfl
      · exact .inl h
      · exact .inr ⟨id, List.mem_cons_self⟩
    · exact .inr ⟨id', List.mem_cons_of_mem _ hm⟩

end Progress

/-- A node fails with what its plugin says. -/
theorem Node.run_error {node : Node} {plugin : Plugin} {inputs : PortValues} {s : Session} {err : RunError}
    (h : (node.run plugin inputs s).1 = .error err) :
    ∃ reason supply, err = .nodeFailed node.id reason ∧ (plugin.run node.type inputs supply).1 = .error reason := by
  rw [Node.run_fst] at h
  obtain ⟨reason, hr, rfl⟩ := Except.mapError_eq_error_iff.1 h
  exact ⟨reason, s.supply, rfl, hr⟩

namespace Graph

variable {g : Graph} {r : Registry}

/-- The failure is that of a declared node, and among the calls is the one in which its plugin failed. -/
def Blames (g : Graph) (r : Registry) (err : RunError) (calls : List Call) : Prop :=
  ∃ id node plugin inputs reason, g.nodes.get? id = some node ∧ r.get? node.plugin = some plugin ∧
    err = .nodeFailed id reason ∧ ⟨some id, plugin.name, node.type, inputs⟩ ∈ calls ∧
    ∃ supply, (plugin.run node.type inputs supply).1 = .error reason

theorem Blames.mono {err : RunError} {calls calls' : List Call} (h : g.Blames r err calls) (hc : calls ⊆ calls') :
    g.Blames r err calls' := by
  obtain ⟨id, node, plugin, inputs, reason, hn, hp, he, hm, hs⟩ := h
  exact ⟨id, node, plugin, inputs, reason, hn, hp, he, hc hm, hs⟩

/-- All these nodes are declared, and their plugins are registered. -/
def Finds (g : Graph) (r : Registry) (ids : List String) : Prop :=
  ∀ id ∈ ids, ∃ node plugin, g.find r id = .ok (node, plugin)

theorem Finds.tail {id : String} {rest : List String} (h : g.Finds r (id :: rest)) : g.Finds r rest :=
  fun x hx => h x (List.mem_cons_of_mem _ hx)

theorem Finds.mono {ids ids' : List String} (h : g.Finds r ids) (hm : ids' ⊆ ids) : g.Finds r ids' :=
  fun x hx => h x (hm hx)

/-! ## Runs of nodes -/

/-- If the computation fails, then through one of its calls. -/
abbrev FailsThroughCall (g : Graph) (r : Registry) {α : Type} (result : Except RunError α) (calls : List Call) : Prop :=
  ∀ err, result = .error err → g.Blames r err calls

theorem runNode_does (hg : g.KeyedById) {id : String} (hf : ∃ node plugin, g.find r id = .ok (node, plugin))
    (results : Results) (s : Session) : Does (g.runNode r results id) s (g.FailsThroughCall r) := by
  obtain ⟨node, plugin, hf⟩ := hf
  obtain ⟨hn, hp⟩ := find_eq_ok_iff.1 hf
  have hid : node.id = id := hg.id_eq hn
  unfold runNode
  simp only [hf]
  refine ⟨_, node.makes_run plugin _ s, fun err h => ?_⟩
  obtain ⟨reason, supply, rfl, hr⟩ := Node.run_error h
  exact ⟨id, node, plugin, _, reason, hn, hp, by rw [hid], by simp [hid], supply, hr⟩

theorem runInOrderFrom_does (hg : g.KeyedById) {order : List String} (hf : g.Finds r order) (results : Results)
    (s : Session) : Does (g.runInOrderFrom r results order) s (g.FailsThroughCall r) := by
  -- The induction is on the nodes still to run. The error is that of the first node, or comes from the rest.
  induction order generalizing results s with
  | nil => exact does_pure (by rintro err ⟨⟩) s
  | cons id rest ih =>
    refine does_bind (runNode_does hg (hf id List.mem_cons_self) results s) fun o calls s' ho => ?_
    cases o with
    | error e =>
      refine does_pure (fun err h => ?_) s'
      cases h
      exact (ho e rfl).mono (List.subset_append_left _ _)
    | ok outputs =>
      obtain ⟨calls', hm, hb⟩ := ih hf.tail (results.insert id outputs) s'
      exact ⟨calls', hm, fun err h => (hb err h).mono (List.subset_append_right _ _)⟩

theorem runAll_does (hg : g.KeyedById) {ids : List String} (hf : g.Finds r ids) (results : Results) (s : Session) :
    Does (g.runAll r results ids) s fun os calls => ∀ id err, (id, .error err) ∈ os → g.Blames r err calls := by
  induction ids generalizing s with
  | nil => exact does_pure (by rintro id err ⟨⟩) s
  | cons x rest ih =>
    refine does_bind (runNode_does hg (hf x List.mem_cons_self) results s) fun o calls s' ho => ?_
    refine does_bind (ih hf.tail s') fun os calls' s'' hos => does_pure (fun id err h => ?_) s''
    rw [List.append_nil]
    rcases List.mem_cons.1 h with h | h
    · exact (ho err (congrArg Prod.snd h).symm).mono (List.subset_append_left _ _)
    · exact (hos id err h).mono (List.subset_append_right _ _)

/-! ## Runs by tiers -/

/-- A failure that was not there before is that of a node that was called. -/
abbrev AddsFailure (g : Graph) (r : Registry) (before after : Progress) (calls : List Call) : Prop :=
  ∀ place err, after.failure? = some (place, err) → before.failure? = some (place, err) ∨ g.Blames r err calls

theorem runTier_does (hg : g.KeyedById) {tier : List String} (hf : g.Finds r tier) (arrangement : Arrangement)
    (order : List String) (p : Progress) (s : Session) :
    Does (g.runTier r arrangement order p tier) s (g.AddsFailure r p) := by
  have hruns : arrangement.nodes (tier.filter fun id => p.admits (placeIn order id)) ⊆ tier := fun x hx =>
    (List.mem_filter.1 ((arrangement.nodes_perm _).mem_iff.1 hx)).1
  -- Only admitted nodes run, and those are nodes of the tier. Which order they run in does not matter here.
  refine does_bind (runAll_does hg (hf.mono hruns) p.results s) fun os calls s' hos => does_pure ?_ s'
  intro place err h
  rw [List.append_nil]
  rcases Progress.failure_foldl_take h with h | ⟨id, hm⟩
  · exact .inl h
  · exact .inr (hos id err ((arrangement.outcomes_perm _).mem_iff.1 hm))

theorem runTiersFrom_does (hg : g.KeyedById) {tiers : List (List String)} (hf : g.Finds r tiers.flatten)
    (arrangement : Arrangement) (order : List String) (p : Progress) (s : Session) :
    Does (g.runTiersFrom r arrangement order p tiers) s (g.AddsFailure r p) := by
  induction tiers generalizing p s with
  | nil => exact does_pure (fun place err h => .inl h) s
  | cons tier rest ih =>
    have htier : g.Finds r tier := hf.mono (List.subset_append_left _ _)
    have hrest : g.Finds r rest.flatten := hf.mono (List.subset_append_right _ _)
    refine does_bind (runTier_does hg htier arrangement order p s) fun p' calls s' hp' => ?_
    obtain ⟨calls', hm, hb⟩ := ih hrest p' s'
    -- The failure in the end is one that a later tier added, or one that this tier left.
    refine ⟨calls', hm, fun place err h => ?_⟩
    rcases hb place err h with h | h
    · exact (hp' place err h).imp_right fun h => h.mono (List.subset_append_left _ _)
    · exact .inr (h.mono (List.subset_append_right _ _))

theorem runByTiers_does (hg : g.KeyedById) {order : List String} (hf : g.Finds r order) (arrangement : Arrangement)
    (s : Session) : Does (g.runByTiers r arrangement order) s (g.FailsThroughCall r) := by
  have htiers : g.Finds r (g.tiers order).flatten := hf.mono (flatten_tiers order).subset
  refine does_bind (runTiersFrom_does hg htiers arrangement order ⟨∅, none⟩ s) fun p calls s' hp => ?_
  cases hfail : p.failure? with
  | none => exact does_pure (by rintro err ⟨⟩) s'
  | some failure =>
    obtain ⟨place, e⟩ := failure
    refine does_pure (fun err h => ?_) s'
    cases h
    rw [List.append_nil]
    exact (hp place e hfail).resolve_left (by rintro ⟨⟩)

end Graph

/-- Under every strategy a run fails only through the call of a node. -/
theorem Strategy.run_does {g : Graph} {r : Registry} (hg : g.KeyedById) {order : List String} (hf : g.Finds r order)
    (strategy : Strategy) (arrangement : Arrangement) (s : Session) :
    Does (strategy.run r g order arrangement) s (g.FailsThroughCall r) := by
  cases strategy with
  | sequential => exact Graph.runInOrderFrom_does hg hf ∅ s
  | levelByLevel => exact Graph.runByTiers_does hg hf arrangement s

end Dataflow
