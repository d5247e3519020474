import Dataflow.Plugin.Loader
import Dataflow.Text.Quoted
/-!
# Registries

A registry holds plugins under the names they declare. A name is bound once and stays bound.
`ensureLoaded` binds the names that are missing to plugins of a loader, and stops at the first
one that the loader does not provide.
-/

namespace Dataflow

/-- Plugins by name. -/
structure Registry where
  plugins : SortedMap Plugin

namespace Registry

/-- The registry without plugins. -/
def empty : Registry := ⟨∅⟩

/-- The plugin with this name. -/
def get? (r : Registry) (name : String) : Option Plugin := r.plugins.get? name

/-- Whether a name is bound. -/
def contains (r : Registry) (name : String) : Bool := r.plugins.contains name

/-- The bound names, sorted. Nothing depends on how a registry keeps its plugins, as long as the names are
sorted for this list; a `SortedMap` has them sorted at all times, so that nothing is left to do here. -/
def names (r : Registry) : List String := r.plugins.keys

/-- How many plugins are registered. -/
def size (r : Registry) : Nat := r.plugins.size

/-- Whether no plugin is registered. -/
def isEmpty (r : Registry) : Bool := r.plugins.isEmpty

/-- Binds a plugin to the name it declares, which must not be bound yet. -/
def register (r : Registry) (p : Plugin) : Except PluginError Registry :=
  if r.contains p.name then .error (.duplicatePlugin p.name)
  else .ok ⟨r.plugins.insert p.name p⟩

/-- Every plugin stands under the name it declares. -/
def Named (r : Registry) : Prop := ∀ name p, r.get? name = some p → p.name = name

/-- What a plugin declares about a node. -/
def node? (r : Registry) (plugin node : String) : Option NodeDeclaration :=
  (r.get? plugin).bind (·.declaration.nodes.get? node)

/-- The registry on one line, for diagnosis. -/
def debugText (r : Registry) : String :=
  "PluginRegistry \x7b plugin_count: " ++ toString r.size ++
    ", plugin_names: " ++ Text.quotedList r.names ++ " \x7d"

/-- What loading some names came to: the registry afterwards, the plugins bound on the way
in order, and the error that ended it, if one did. -/
structure Loading where
  registry : Registry
  loaded : List Plugin
  error? : Option PluginError

/-- The plugin that a loader provides under its own name. -/
def provided? (loader : Loader) (name : String) : Option Plugin :=
  match loader.load? name with
  | some p => if p.name = name then some p else none
  | none => none

/-- Goes on loading names; `loaded` are the plugins bound before. -/
def loadFrom (loader : Loader) (r : Registry) (loaded : List Plugin) : List String → Loading
  | [] => ⟨r, loaded, none⟩
  | name :: rest =>
    if r.contains name then loadFrom loader r loaded rest
    else
      match provided? loader name with
      | none => ⟨r, loaded, some (.unknownPlugin name)⟩
      | some p =>
        match r.register p with
        | .error e => ⟨r, loaded, some e⟩
        | .ok r => loadFrom loader r (loaded ++ [p]) rest

/-- Binds every name of `required` that is not bound yet. -/
def ensureLoaded (r : Registry) (loader : Loader) (required : List String) : Loading :=
  loadFrom loader r [] required

/-- The names that were bound, or the error. -/
def Loading.names (l : Loading) : Except PluginError (List String) :=
  match l.error? with
  | none => .ok (l.loaded.map Plugin.name)
  | some e => .error e

end Registry

end Dataflow
