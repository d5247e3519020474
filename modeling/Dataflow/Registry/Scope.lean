import Dataflow.Registry.Basic
/-!
# Types across plugins

Within a registry a plugin reaches the types of all others. `plugin.Type` means the type of the
named plugin. A bare name means a type of the home plugin, or else of the first other plugin,
by name, that declares it. Rules, defaults and conversions are those of the plugin that declares
the type; a conversion into a type of another plugin names it qualified.
-/

namespace Dataflow.Registry

/-- A type of a plugin, by bare name. -/
def typeOf? (r : Registry) (plugin bare : String) : Option (Plugin × TypeRef × TypeDeclaration) :=
  (r.get? plugin).bind fun p =>
    (p.declaration.types.get? bare).map fun type => (p, ⟨plugin, bare⟩, type)

/-- What a type name means from the home plugin. -/
def resolveType? (r : Registry) (home name : String) :
    Option (Plugin × TypeRef × TypeDeclaration) :=
  match splitQualified name with
  | (some plugin, bare) => r.typeOf? plugin bare
  | (none, bare) =>
    match r.typeOf? home bare with
    | some found => some found
    | none => (r.names.filter (· ≠ home)).findSome? (r.typeOf? · bare)

/-- The scope of the home plugin. -/
def typeScope (r : Registry) (home : String) : TypeScope where
  resolve? name := (r.resolveType? home name).map Prod.snd
  checkRule name rule value :=
    match r.resolveType? home name with
    | some (plugin, _, type) => plugin.checkRule type.name rule value
    | none => false
  refineDefault name base :=
    match r.resolveType? home name with
    | some (plugin, _, type) => plugin.refineDefault type.name base
    | none => pure base
  convert value source target :=
    match r.resolveType? home source, r.resolveType? home target with
    | none, _ => .error (.unknownType source)
    | _, none => .error (.unknownType target)
    | some (sourcePlugin, _, sourceType), some (targetPlugin, _, targetType) =>
      if sourcePlugin.name = targetPlugin.name then
        sourcePlugin.convert value sourceType.name targetType.name
      else
        sourcePlugin.convert value sourceType.name (targetPlugin.name ++ "." ++ targetType.name)

end Dataflow.Registry
