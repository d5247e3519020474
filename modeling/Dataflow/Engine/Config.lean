import Dataflow.Run.Strategy
/-!
# Engine configurations
-/

namespace Dataflow

/-- How an engine is set up. Everything has a default. -/
structure Config where
  strategy : Strategy := .sequential
  /-- How many nodes may run beside each other at most. Every number may be given, and no run reads it:
  runs are given an `Arrangement`, which presupposes a limit within bounds. -/
  maxConcurrency? : Option Nat := none
  /-- The plugins to load at the start; none stands for all that the loader offers. -/
  plugins : List String := []
  /-- Where to write the manifests of the loaded plugins. -/
  manifestDirectory? : Option String := none
deriving DecidableEq, Inhabited

/-- A limit of concurrency as it is obeyed: at least one node runs. -/
def obeyedConcurrency (limit : Nat) : Nat := max limit 1

end Dataflow
