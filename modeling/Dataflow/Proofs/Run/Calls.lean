import Dataflow.Proofs.Run.Outcome
import Dataflow.Run.Strategy
/-!
# The calls of a run

`Session.Makes` says which calls a computation adds to the journal of its session. Events and the
clock add none. A node of a graph adds the call of its plugin (`Graph.makes_runNode`), and the nodes
of a tier add theirs one after the other (`Graph.makes_runTier`), whatever the plugins do.
-/

namespace Dataflow

namespace Session

variable {α β : Type} {s : Session} {P : α → List Call → Prop} {Q : β → List Call → Prop}

/-- In this session the computation makes these calls, in this order, and no others. -/
def Makes (x : SessionM α) (s : Session) (calls : List Call) : Prop := (x s).2.calls = s.calls ++ calls

theorem Makes.unique {x : SessionM α} {calls calls' : List Call} (h : Makes x s calls) (h' : Makes x s calls') :
    calls = calls' :=
  List.append_cancel_left (h.symm.trans h')

theorem makes_pure (a : α) (s : Session) : Makes (pure a) s [] := (List.append_nil s.calls).symm

theorem makes_bind {x : SessionM α} {f : α → SessionM β} {calls calls' : List Call} (hx : Makes x s calls)
    (hf : Makes (f (x s).1) (x s).2 calls') : Makes (x >>= f) s (calls ++ calls') := by
  unfold Makes at *
  rw [bind_apply, hf, hx, List.append_assoc]

/-- What is recorded is a call or none. -/
theorem makes_record (entry : Entry) (s : Session) : Makes (record entry) s entry.call?.toList := by
  unfold Makes record calls
  cases h : entry.call? <;> simp [h]

theorem makes_report (e : Event) (s : Session) : Makes (report e) s [] := makes_record (.event e) s

theorem makes_reportAll (es : List Event) (s : Session) : Makes (reportAll es) s [] := by
  induction es generalizing s with
  | nil => exact makes_pure () s
  | cons e rest ih => exact makes_bind (makes_report e s) (ih _)

theorem makes_clock (s : Session) : Makes clock s [] := makes_pure s.supply.clock s

theorem makes_elapsedSince (start : Int64) (s : Session) : Makes (elapsedSince start) s [] :=
  makes_bind (makes_clock s) (makes_pure _ _)

theorem makes_draw (x : StateM Supply α) (s : Session) : Makes (draw x) s [] := (List.append_nil s.calls).symm

/-- In this session the computation ends with a value, and makes calls, for which `P` holds. -/
def Does (x : SessionM α) (s : Session) (P : α → List Call → Prop) : Prop := ∃ calls, Makes x s calls ∧ P (x s).1 calls

theorem does_pure {a : α} (h : P a []) (s : Session) : Does (pure a) s P := ⟨[], makes_pure a s, h⟩

theorem does_bind {x : SessionM α} {f : α → SessionM β} (hx : Does x s P)
    (hf : ∀ a calls s', P a calls → Does (f a) s' fun b calls' => Q b (calls ++ calls')) : Does (x >>= f) s Q := by
  obtain ⟨calls, hm, hp⟩ := hx
  obtain ⟨calls', hm', hq⟩ := hf _ calls (x s).2 hp
  exact ⟨calls ++ calls', makes_bind hm hm', hq⟩

/-- A step without calls, whatever it gives. -/
theorem does_after {x : SessionM α} {f : α → SessionM β} (hx : Makes x s []) (hf : ∀ a s', Does (f a) s' Q) :
    Does (x >>= f) s Q :=
  does_bind (P := fun _ calls => calls = []) ⟨[], hx, rfl⟩ fun a _ s' h => h ▸ hf a s'

theorem makes_call (instance? : Option String) (p : Plugin) (node : String) (inputs : PortValues) (s : Session) :
    Makes (call instance? p node inputs) s [⟨instance?, p.name, node, inputs⟩] :=
  makes_bind (makes_record _ s) (makes_draw _ _)

end Session

open Session

theorem Node.makes_run (node : Node) (plugin : Plugin) (inputs : PortValues) (s : Session) :
    Makes (node.run plugin inputs) s [⟨some node.id, plugin.name, node.type, inputs⟩] := by
  unfold Node.run
  refine makes_bind (makes_report _ _) (makes_bind (makes_clock _) (makes_bind (makes_call _ _ _ _ _) ?_))
  split
  · exact makes_bind (makes_elapsedSince _ _) (makes_bind (makes_report _ _) (makes_pure _ _))
  · exact makes_bind (makes_report _ _) (makes_pure _ _)

namespace Graph

variable {g : Graph} {r : Registry}

/-- The call of a node on the results so far; none if the node or its plugin cannot be found. -/
def callsOf (g : Graph) (r : Registry) (results : Results) (id : String) : List Call :=
  match g.find r id with
  | .error _ => []
  | .ok (node, plugin) => [⟨some node.id, plugin.name, node.type, g.gatherInputs node results⟩]

theorem makes_runNode (results : Results) (id : String) (s : Session) :
    Makes (g.runNode r results id) s (g.callsOf r results id) := by
  unfold runNode callsOf
  cases g.find r id with
  | error e => exact makes_pure _ s
  | ok found => exact found.1.makes_run found.2 _ s

theorem makes_runAll (results : Results) (ids : List String) (s : Session) :
    Makes (g.runAll r results ids) s (ids.flatMap (g.callsOf r results)) := by
  induction ids generalizing s with
  | nil => exact makes_pure _ s
  | cons id rest ih =>
    have hrest := makes_bind (ih (g.runNode r results id s).2) (makes_pure _ _)
    rw [List.append_nil] at hrest
    exact makes_bind (makes_runNode results id s) hrest

/-- A tier calls the plugins of the nodes that it admits, as they are arranged. -/
theorem makes_runTier (arrangement : Arrangement) (order : List String) (p : Progress) (tier : List String)
    (s : Session) :
    Makes (g.runTier r arrangement order p tier) s
      ((arrangement.nodes (tier.filter fun id => p.admits (placeIn order id))).flatMap (g.callsOf r p.results)) := by
  have h := makes_bind (makes_runAll (g := g) (r := r) p.results
    (arrangement.nodes (tier.filter fun id => p.admits (placeIn order id))) s) (makes_pure _ _)
  rw [List.append_nil] at h
  exact h

end Graph

end Dataflow
