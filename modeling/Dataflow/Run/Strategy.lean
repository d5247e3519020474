import Dataflow.Run.Sequential
import Dataflow.Run.Tiered
/-!
# Strategies

How the nodes of an execution order are run: one after the other, or tier by tier.
-/

namespace Dataflow

/-- How a graph is run. -/
inductive Strategy where
  | sequential
  | levelByLevel
deriving DecidableEq, Inhabited

namespace Strategy

/-- The name of a strategy. -/
def name : Strategy → String
  | .sequential => "sequential"
  | .levelByLevel => "level_by_level"

/-- The strategy with this name. -/
def ofName? (name : String) : Option Strategy :=
  if name = "sequential" then some .sequential
  else if name = "level_by_level" then some .levelByLevel
  else none

/-- Runs the nodes of `order`. The arrangement is for the nodes of a tier; it presupposes a limit of
concurrency within the bounds that `Arrangement` names. -/
def run (s : Strategy) (r : Registry) (g : Graph) (order : List String)
    (arrangement : Arrangement := .listed) : SessionM (Except RunError Results) :=
  match s with
  | .sequential => g.runInOrder r order
  | .levelByLevel => g.runByTiers r arrangement order

end Strategy

end Dataflow
