import Dataflow.Graph.Basic
/-!
# Tiers

`Graph.tiers` groups an order of nodes. The tier of a node is one more than the highest tier
among the nodes before it that feed it, and zero when none does. Within a tier the nodes keep
their order. For an order in which producers precede consumers, nodes of one tier do not feed
each other.
-/

namespace Dataflow.Graph

/-- Adds `id` at the end of the tier with number `tier`. -/
def addToTier (id : String) : Nat → List (List String) → List (List String)
  | 0, [] => [[id]]
  | n + 1, [] => [] :: addToTier id n []
  | 0, t :: rest => (t ++ [id]) :: rest
  | n + 1, t :: rest => t :: addToTier id n rest

/-- The tier of a node, given the tiers of the nodes before it, the latest first. -/
def tierOf (g : Graph) (placed : List (String × Nat)) (id : String) : Nat :=
  ((g.incoming id).filterMap fun c => (placed.lookup c.source.node).map (· + 1)).foldl max 0

/-- Puts the remaining nodes into tiers. -/
def tiersFrom (g : Graph) (placed : List (String × Nat)) (tiers : List (List String)) :
    List String → List (List String)
  | [] => tiers
  | id :: rest =>
    let tier := g.tierOf placed id
    tiersFrom g ((id, tier) :: placed) (addToTier id tier tiers) rest

/-- Groups an order of nodes into tiers. -/
def tiers (g : Graph) (order : List String) : List (List String) := g.tiersFrom [] [] order

end Dataflow.Graph
