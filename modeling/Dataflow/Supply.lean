import Dataflow.Identifier
/-!
# What plugins draw from outside

A `Supply` is all that a plugin can learn beside its inputs: the time, and identifiers that
were not given out before. A plugin that leaves it alone is a function of its inputs.
-/

namespace Dataflow

/-- The clock, in milliseconds since 1970, and the source of fresh identifiers. -/
structure Supply where
  clock : Int64
  seed : Nat
deriving Inhabited

namespace Supply

/-- Scatters seeds over the identifiers; odd, so that no two of `identifierCount` seeds meet. -/
def scatter : Nat := 0x9E3779B97F4A7C15F39CC0605CEDC835

/-- A fresh identifier. -/
def freshIdentifier : StateM Supply String := fun s =>
  (identifierText (s.seed * scatter % identifierCount), { s with seed := s.seed + 1 })

/-- The time. -/
def now : StateM Supply Int64 := fun s => (s.clock, s)

end Supply

end Dataflow
