import Dataflow.Run.Event
/-!
# Sessions

A session is what goes on around the runs of an engine: the supply that plugins draw from, and a
journal of everything that happened, in order. `SessionM` computations are those that use a session.
-/

namespace Dataflow

/-- One run of a plugin's node. -/
structure Call where
  /-- The instance that ran, if it ran as part of a graph. -/
  instance? : Option String
  plugin : String
  node : String
  inputs : PortValues

/-- Something that happened. -/
inductive Entry where
  | event (e : Event)
  | span (s : EventSpan)
  | call (c : Call)

/-- The call that an entry records. -/
def Entry.call? : Entry → Option Call
  | .call c => some c
  | _ => none

/-- The supply, and what happened so far. -/
structure Session where
  supply : Supply
  journal : List Entry

/-- Computations within a session. -/
abbrev SessionM := StateM Session

namespace Session

/-- A session in which nothing happened yet. -/
def ofSupply (supply : Supply) : Session := ⟨supply, []⟩

/-- The calls in the journal. -/
def calls (s : Session) : List Call := s.journal.filterMap Entry.call?

/-- Writes into the journal. -/
def record (entry : Entry) : SessionM Unit := fun s =>
  ((), { s with journal := s.journal ++ [entry] })

/-- Reports an event. -/
def report (e : Event) : SessionM Unit := record (.event e)

/-- Reports some events. -/
def reportAll : List Event → SessionM Unit
  | [] => pure ()
  | e :: rest => do report e; reportAll rest

/-- Lets a plugin draw from the supply. -/
def draw {α : Type} (x : StateM Supply α) : SessionM α := fun s =>
  let (a, supply) := x s.supply
  (a, { s with supply })

/-- The time. -/
def clock : SessionM Int64 := fun s => (s.supply.clock, s)

/-- The time that passed since the clock showed `start`. -/
def elapsedSince (start : Int64) : SessionM Duration := do
  let now ← clock
  return ⟨(now.toInt - start.toInt).toNat * Duration.millisecond⟩

/-- Runs a node of a plugin and records the call. -/
def call (instance? : Option String) (p : Plugin) (node : String) (inputs : PortValues) :
    SessionM (Except PluginError PortValues) := do
  record (.call ⟨instance?, p.name, node, inputs⟩)
  draw (p.run node inputs)

/-- A computation of a session within a larger one. -/
def perform {m : Type → Type} [Monad m] {α : Type} (x : SessionM α) : StateT Session m α :=
  fun s => pure (x s)

end Session

/-- Runs a node outside a graph. -/
def Registry.execute (r : Registry) (plugin node : String) (inputs : PortValues) :
    SessionM (Except PluginError PortValues) :=
  match r.get? plugin with
  | some p => Session.call none p node inputs
  | none => pure (.error (.unknownPlugin plugin))

end Dataflow
