import Dataflow.Proofs.Plugin.Contract
import Dataflow.Proofs.Run.Tiered
import Dataflow.Run.Strategy
/-!
# Well-typed graphs do not fail

A graph is well typed (`Graph.WellTyped`) if the plugins of its nodes keep their declarations, its
connections join ports of one type, and every declared input port has a connection or a parameter
that its type allows. On what the nodes before it delivered, a node of such a graph succeeds and
delivers what it declares (`runNode_delivers`). From this step the run in order and the run by tiers
go through (`Strategy.run_succeeds`). Plugins may draw from the supply.
-/

namespace Dataflow

namespace Graph

variable {g : Graph} {r : Registry} {allows : String → Json → Prop}

/-! ## Typed graphs -/

/-- The node is declared by a plugin that keeps its declaration. Its parameters are of the types of
their ports, and a port without one is fed by a connection. -/
structure TypedNode (g : Graph) (r : Registry) (allows : String → Json → Prop) (node : Node) (p : Plugin)
    (d : NodeDeclaration) : Prop where
  plugin : r.get? node.plugin = some p
  name : p.name = node.plugin
  keeps : p.Keeps allows
  declared : p.declaration.nodes.get? node.type = some d
  parameters : ∀ port type value, d.inputs.get? port = some type → (port, value) ∈ node.parameters.entries →
    allows (qualify node.plugin type) value
  fed : ∀ port type, d.inputs.get? port = some type →
    (∃ value, (port, value) ∈ node.parameters.entries) ∨ ∃ c ∈ g.connections, c.target = ⟨node.id, port⟩

/-- All nodes are typed, and the connections fit the ports that they join. -/
structure WellTyped (g : Graph) (r : Registry) (allows : String → Json → Prop) : Prop where
  keyed : g.KeyedById
  wiring : g.wiringWarnings r = []
  node : ∀ id node, g.nodes.get? id = some node → ∃ p d, g.TypedNode r allows node p d

/-- These outputs are what the node `id` declares. -/
def Delivers (g : Graph) (r : Registry) (allows : String → Json → Prop) (id : String) (outputs : PortValues) : Prop :=
  ∃ node d, g.declarationOf? r id = some (node, d) ∧ outputs.Fill allows node.plugin d.outputs

/-- These nodes have run and delivered. -/
def Delivered (g : Graph) (r : Registry) (allows : String → Json → Prop) (done : List String) (results : Results) :
    Prop :=
  ∀ id ∈ done, ∃ outputs, results.get? id = some outputs ∧ g.Delivers r allows id outputs

theorem delivered_nil : g.Delivered r allows [] ∅ := fun _ h => nomatch h

theorem Delivered.mono {done done' : List String} {results : Results} (h : g.Delivered r allows done results)
    (hm : done' ⊆ done) : g.Delivered r allows done' results :=
  fun id hid => h id (hm hid)

theorem Delivered.insert {done : List String} {results : Results} (h : g.Delivered r allows done results) {id : String}
    {outputs : PortValues} (ho : g.Delivers r allows id outputs) :
    g.Delivered r allows (done ++ [id]) (results.insert id outputs) := by
  intro x hx
  rw [OrderedMap.get?_insert]
  by_cases he : x = id
  · exact ⟨outputs, if_pos he, he ▸ ho⟩
  · rw [if_neg he]
    exact h x ((List.mem_append.1 hx).resolve_right fun hm => he (List.mem_singleton.1 hm))

/-! ## One node -/

/-- All that feeds the node stands among `done`. -/
def FedBy (g : Graph) (done : List String) (id : String) : Prop :=
  ∀ c ∈ g.connections, c.target.node = id → c.source.node ∈ done

section Node

variable {done : List String} {results : Results} {id : String} {node : Node} {p : Plugin} {d : NodeDeclaration}

/-- A connection brings what the type of its target allows. -/
theorem WellTyped.brings (h : g.WellTyped r allows) (hdone : g.Delivered r allows done results) {c : Connection}
    (hc : c ∈ g.connections) (hsource : c.source.node ∈ done)
    (hnode : g.declarationOf? r c.target.node = some (node, d)) :
    ∃ type value, d.inputs.get? c.target.port = some type ∧ results.valueAt? c.source = some value ∧
      allows (qualify node.plugin type) value := by
  obtain ⟨outputs, hresult, producer, produced, hproducer, hfill⟩ := hdone _ hsource
  have hwarning : g.wiringWarning? r c = none := List.filterMap_eq_nil_iff.1 h.wiring c hc
  obtain ⟨output, input, houtput, hinput, htype⟩ := ports_of_no_warning hwarning hproducer hnode
  obtain ⟨value, hvalue, hallowed⟩ := hfill _ output houtput
  refine ⟨input, value, hinput, ?_, htype ▸ hallowed⟩
  rw [Results.valueAt?, hresult]
  exact hvalue

/-- The inputs of a node whose producers have delivered are what it declares. -/
theorem WellTyped.inputs_fill (h : g.WellTyped r allows) (hnode : g.nodes.get? id = some node)
    (ht : g.TypedNode r allows node p d) (hdone : g.Delivered r allows done results) (hfed : g.FedBy done id) :
    (g.gatherInputs node results).Fill allows node.plugin d.inputs := by
  have hid : node.id = id := h.keyed.id_eq hnode
  have hd : g.declarationOf? r id = some (node, d) := declarationOf?_eq_some_iff.2 ⟨hnode, p, ht.plugin, ht.declared⟩
  have hbrings : ∀ port type, d.inputs.get? port = some type → ∀ c ∈ g.connections, c.target = ⟨node.id, port⟩ →
      ∃ value, results.valueAt? c.source = some value ∧ allows (qualify node.plugin type) value := by
    intro port type htype c hc htarget
    have hnode' : c.target.node = id := (congrArg Endpoint.node htarget).trans hid
    have hport' : c.target.port = port := congrArg Endpoint.port htarget
    obtain ⟨type', value, htype', hvalue, hallowed⟩ := h.brings hdone hc (hfed c hc hnode') (hnode' ▸ hd)
    cases htype.symm.trans (hport' ▸ htype')
    exact ⟨value, hvalue, hallowed⟩
  intro port type htype
  rcases gatherInputs_cases node results port with ⟨value, hget, hparameter | ⟨c, hc, htarget, hvalue⟩⟩ |
      ⟨hnone, hempty⟩
  · exact ⟨value, hget, ht.parameters port type value htype hparameter⟩
  · obtain ⟨value', hvalue', hallowed⟩ := hbrings port type htype c hc htarget
    cases hvalue.symm.trans hvalue'
    exact ⟨value, hget, hallowed⟩
  · -- Nothing came, but the port has a parameter or a connection, and a connection brings something.
    rcases ht.fed port type htype with ⟨value, hm⟩ | ⟨c, hc, htarget⟩
    · exact absurd hm (hnone value)
    · obtain ⟨value, hvalue, -⟩ := hbrings port type htype c hc htarget
      cases hvalue.symm.trans (hempty c hc htarget)

/-- The step of every run: a node whose producers have delivered succeeds and delivers. -/
theorem WellTyped.runNode_delivers (h : g.WellTyped r allows) (hid : id ∈ g.ids)
    (hdone : g.Delivered r allows done results)
    (hfed : g.FedBy done id) (s : Session) :
    ∃ outputs, (g.runNode r results id s).1 = .ok outputs ∧ g.Delivers r allows id outputs := by
  obtain ⟨node, hnode⟩ := OrderedMap.mem_keys_iff.1 hid
  obtain ⟨p, d, ht⟩ := h.node id node hnode
  have hinputs := h.inputs_fill hnode ht hdone hfed
  rw [← ht.name] at hinputs
  obtain ⟨outputs, hrun, hfill⟩ := ht.keeps node.type d ht.declared _ hinputs s.supply
  refine ⟨outputs, ?_, node, d, declarationOf?_eq_some_iff.2 ⟨hnode, p, ht.plugin, ht.declared⟩, ht.name ▸ hfill⟩
  unfold runNode
  rw [find_eq_ok_iff.2 ⟨hnode, ht.plugin⟩]
  exact (node.run_fst p _ s).trans (Except.mapError_eq_ok_iff.2 hrun)

end Node

/-! ## Whole runs -/

section Runs

variable {order : List String} (h : g.WellTyped r allows) (hp : g.problems = [])

include hp in
theorem fedBy {front back : List String} {id : String} (hperm : (front ++ id :: back).Perm g.ids)
    (hf : g.Forward (front ++ id :: back)) : g.FedBy front id := by
  intro c hc ht
  have hs : c.source.node ∈ g.ids := ((problems_eq_nil_iff.1 hp).1 c hc).1
  exact hf.mem_front (hperm.nodup_iff.2 g.nodup_ids) hc ht (hperm.mem_iff.2 hs)

include h hp in
theorem runInOrderFrom_succeeds {done rest : List String} {results : Results}
    (hdone : g.Delivered r allows done results)
    (hperm : (done ++ rest).Perm g.ids) (hf : g.Forward (done ++ rest)) (s : Session) :
    ∃ results', (g.runInOrderFrom r results rest s).1 = .ok results' := by
  induction rest generalizing done results s with
  | nil => exact ⟨results, rfl⟩
  | cons id rest ih =>
    have hid : id ∈ g.ids := hperm.mem_iff.1 (by simp)
    obtain ⟨outputs, hrun, ho⟩ := h.runNode_delivers hid hdone (fedBy hp hperm hf) s
    unfold runInOrderFrom
    rw [Session.bind_apply, hrun]
    rw [List.append_cons] at hperm hf
    exact ih (hdone.insert ho) hperm hf _

/-- A run by tiers in which nothing has failed and these nodes have delivered. -/
structure OnTrack (g : Graph) (r : Registry) (allows : String → Json → Prop) (done : List String) (p : Progress) :
    Prop where
  failure : p.failure? = none
  delivered : g.Delivered r allows done p.results

theorem OnTrack.foldl_take (order : List String) {done : List String} {p : Progress} (hp : g.OnTrack r allows done p)
    {os : List (String × Outcome)} (hos : ∀ x ∈ os, ∃ outputs, x.2 = .ok outputs ∧ g.Delivers r allows x.1 outputs) :
    g.OnTrack r allows (done ++ os.map Prod.fst)
      (os.foldl (fun p (id, outcome) => p.take id (placeIn order id) outcome) p) := by
  induction os generalizing done p with
  | nil => simpa using hp
  | cons x rest ih =>
    obtain ⟨id, o⟩ := x
    obtain ⟨outputs, rfl, ho⟩ := hos _ List.mem_cons_self
    have htake : g.OnTrack r allows (done ++ [id]) (p.take id (placeIn order id) (.ok outputs)) :=
      ⟨hp.failure, hp.delivered.insert ho⟩
    rw [List.map_cons, List.append_cons]
    exact ih htake fun x hx => hos x (List.mem_cons_of_mem _ hx)

include h in
theorem runAll_deliver {done ids : List String} {results : Results} (hdone : g.Delivered r allows done results)
    (hids : ∀ id ∈ ids, id ∈ g.ids ∧ g.FedBy done id) (s : Session) :
    ∀ x ∈ (g.runAll r results ids s).1, ∃ outputs, x.2 = .ok outputs ∧ g.Delivers r allows x.1 outputs := by
  induction ids generalizing s with
  | nil => exact fun x hx => nomatch hx
  | cons id rest ih =>
    obtain ⟨hid, hfed⟩ := hids id List.mem_cons_self
    unfold runAll
    simp only [Session.bind_apply]
    intro x hx
    rcases List.mem_cons.1 hx with rfl | hx
    · exact h.runNode_delivers hid hdone hfed s
    · exact ih (fun id hid => hids id (List.mem_cons_of_mem _ hid)) _ x hx

include h in
/-- A tier that is fed by what has been delivered delivers in its turn, however it is arranged. -/
theorem runTier_onTrack (arrangement : Arrangement) {done tier : List String} {p : Progress}
    (hp : g.OnTrack r allows done p) (htier : ∀ id ∈ tier, id ∈ g.ids ∧ g.FedBy done id) (s : Session) :
    g.OnTrack r allows (done ++ tier) (g.runTier r arrangement order p tier s).1 := by
  have hall : (tier.filter fun id => p.admits (placeIn order id)) = tier :=
    List.filter_eq_self.2 fun id _ => by simp [Progress.admits, hp.failure]
  have hnodes := arrangement.nodes_perm tier
  have hos := arrangement.outcomes_perm (g.runAll r p.results (arrangement.nodes tier) s).1
  have hrun := runAll_deliver h hp.delivered (fun id hid => htier id (hnodes.mem_iff.1 hid)) s
  have hkeys := hos.map Prod.fst
  rw [map_fst_runAll] at hkeys
  unfold runTier
  rw [hall, Session.bind_apply]
  have hfold := hp.foldl_take order fun x hx => hrun x (hos.mem_iff.1 hx)
  exact ⟨hfold.failure, hfold.delivered.mono ((hkeys.trans hnodes).symm.append_left done).subset⟩

include h hp in
theorem afterTiers_onTrack (hperm : order.Perm g.ids) (hf : g.Forward order) (arrangement : Arrangement) (s : Session)
    (k : Nat) : g.OnTrack r allows ((g.tiers order).take k).flatten (g.afterTiers r arrangement order k s).1 := by
  induction k with
  | zero => exact ⟨rfl, delivered_nil⟩
  | succ k ih =>
    rw [flatten_take_succ, afterTiers_succ, Session.bind_apply]
    refine runTier_onTrack h arrangement ih (fun id hid => ⟨?_, fun c hc ht => ?_⟩) _
    · exact hperm.mem_iff.1 (mem_of_mem_ranks (mem_getD_tiers.1 hid))
    · have hs : c.source.node ∈ order := hperm.mem_iff.2 ((problems_eq_nil_iff.1 hp).1 c hc).1
      exact mem_flatten_take.2 (source_tier (hperm.nodup_iff.2 g.nodup_ids) hf hc (ht ▸ hid) hs)

include h hp in
theorem runByTiers_succeeds (hperm : order.Perm g.ids) (hf : g.Forward order) (arrangement : Arrangement)
    (s : Session) :
    ∃ results, (g.runByTiers r arrangement order s).1 = .ok results := by
  have hall := afterTiers_onTrack h hp hperm hf arrangement s (g.tiers order).length
  unfold runByTiers
  rw [Session.bind_apply, ← afterTiers_length, hall.failure]
  exact ⟨_, rfl⟩

end Runs

end Graph

/-- A well-typed graph runs to its end under every strategy, in every order of its nodes that goes forward. -/
theorem Strategy.run_succeeds {g : Graph} {r : Registry} {allows : String → Json → Prop} (h : g.WellTyped r allows)
    (hp : g.problems = []) {order : List String} (hperm : order.Perm g.ids) (hf : g.Forward order) (strategy : Strategy)
    (arrangement : Arrangement) (s : Session) : ∃ results, (strategy.run r g order arrangement s).1 = .ok results := by
  cases strategy with
  | sequential => exact Graph.runInOrderFrom_succeeds h hp Graph.delivered_nil hperm hf s
  | levelByLevel => exact Graph.runByTiers_succeeds h hp hperm hf arrangement s

end Dataflow
