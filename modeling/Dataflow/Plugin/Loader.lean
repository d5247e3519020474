import Dataflow.Plugin.Basic
/-!
# Loaders

A loader is where plugins come from that are not registered yet.
-/

namespace Dataflow

/-- Finds plugins by name. -/
structure Loader where
  /-- The plugin for a name. It may declare another name. -/
  load? : String → Option Plugin
  /-- The names that the loader offers. -/
  available : List String

namespace Loader

/-- The loader that offers some plugins under given names; of equal names the first counts. -/
def ofList (plugins : List (String × Plugin)) : Loader where
  load? name := plugins.lookup name
  available := plugins.map Prod.fst

/-- Whether the loader has a plugin for a name that declares exactly this name. -/
def Provides (l : Loader) (name : String) : Prop := ∃ p, l.load? name = some p ∧ p.name = name

end Loader

end Dataflow
