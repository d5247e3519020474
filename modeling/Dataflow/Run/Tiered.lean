import Dataflow.Run.Node
import Dataflow.Schedule.Tier
/-!
# Tier by tier

Nodes of one tier do not feed each other, so they may run in any order and beside each other.
A tier starts when the one before it has come to its end, and every node takes its inputs from
the earlier tiers. When a node has failed, later tiers still run the nodes that stand before it
in the order, because one of them may fail too and would have ended a run one by one: the
earliest failure is the one reported.

An `Arrangement` says in which order the nodes of a tier run and their outcomes are taken in. The limit
of concurrency has no other part in a run than to rule out some of them.
-/

namespace Dataflow

/-- In which order the nodes of a tier run, and in which their outcomes are taken in.

That there is one presupposes a limit of concurrency which the semaphore that enforces it can hold:
at least 1 and, where words have 64 bits, at most `2 ^ 61 - 1`. Under a greater limit the program would
stop at its first tier, which no arrangement stands for. -/
structure Arrangement where
  nodes : List String → List String
  outcomes : List (String × Outcome) → List (String × Outcome)
  nodes_perm : ∀ ids, (nodes ids).Perm ids
  outcomes_perm : ∀ os, (outcomes os).Perm os

/-- The nodes of a tier run one by one as they are listed. -/
def Arrangement.listed : Arrangement where
  nodes ids := ids
  outcomes os := os
  nodes_perm _ := .refl _
  outcomes_perm _ := .refl _

/-- The earliest failure so far, with its place in the order. -/
abbrev Failure := Nat × RunError

/-- Where a run by tiers stands. -/
structure Progress where
  results : Results
  failure? : Option Failure

namespace Progress

/-- Whether a node at this place may still run: it stands before the earliest failure. -/
def admits (p : Progress) (place : Nat) : Bool :=
  match p.failure? with
  | none => true
  | some (earliest, _) => place < earliest

/-- Takes in the outcome of a node at `place`. -/
def take (p : Progress) (id : String) (place : Nat) : Outcome → Progress
  | .ok outputs => { p with results := p.results.insert id outputs }
  | .error e => if p.admits place then { p with failure? := some (place, e) } else p

end Progress

/-- The place of the last occurrence of `id` in a list that starts at place `start`. -/
def lastPlace? (id : String) (start : Nat) : List String → Option Nat
  | [] => none
  | x :: rest =>
    match lastPlace? id (start + 1) rest with
    | some place => some place
    | none => if x = id then some start else none

/-- The place of a node in the order; nodes that are not in it come after all others. -/
def placeIn (order : List String) (id : String) : Nat :=
  (lastPlace? id 0 order).getD order.length

namespace Graph

/-- Runs some nodes on the results so far and gives their outcomes. -/
def runAll (g : Graph) (r : Registry) (results : Results) :
    List String → SessionM (List (String × Outcome))
  | [] => pure []
  | id :: rest => do
    let outcome ← g.runNode r results id
    return (id, outcome) :: (← runAll g r results rest)

/-- Runs the nodes of a tier that stand before the earliest failure. -/
def runTier (g : Graph) (r : Registry) (arrangement : Arrangement) (order : List String)
    (p : Progress) (tier : List String) : SessionM Progress := do
  let runnable := tier.filter fun id => p.admits (placeIn order id)
  let outcomes ← g.runAll r p.results (arrangement.nodes runnable)
  return (arrangement.outcomes outcomes).foldl
    (fun p (id, outcome) => p.take id (placeIn order id) outcome) p

/-- Runs the tiers one by one. -/
def runTiersFrom (g : Graph) (r : Registry) (arrangement : Arrangement) (order : List String)
    (p : Progress) : List (List String) → SessionM Progress
  | [] => pure p
  | tier :: rest => do
    let p ← g.runTier r arrangement order p tier
    runTiersFrom g r arrangement order p rest

/-- The results in the given order. -/
def inOrder (results : Results) (order : List String) : Results :=
  order.foldl (fun ordered id =>
    match results.get? id with
    | some outputs => ordered.insert id outputs
    | none => ordered) ∅

/-- Runs the nodes of `order` tier by tier. -/
def runByTiers (g : Graph) (r : Registry) (arrangement : Arrangement) (order : List String) :
    SessionM (Except RunError Results) := do
  let p ← g.runTiersFrom r arrangement order ⟨∅, none⟩ (g.tiers order)
  match p.failure? with
  | some (_, e) => return .error e
  | none => return .ok (inOrder p.results order)

end Graph

end Dataflow
