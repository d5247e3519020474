import Dataflow.Declaration
import Dataflow.Json.Basic
import Dataflow.Supply
/-!
# Type scopes

A scope says what type names mean: which declaration a name resolves to, and what the rules,
defaults and conversions of the declaring plugin do. A plugin is a scope of its own types;
a registry gives every plugin a scope that reaches the types of the others.
-/

namespace Dataflow

/-- Why a value could not be made or converted. -/
inductive TypeError where
  | unknownType (name : String)
  | unsupportedCast (source target : String)
  | conversionFailed (source target reason : String)
  | invalidValue (type : String)
deriving DecidableEq

/-- The message of a type error. -/
def TypeError.message : TypeError → String
  | .unknownType name => s!"Unknown type '{name}'"
  | .unsupportedCast source target => s!"Unsupported cast from '{source}' to '{target}'"
  | .conversionFailed source target reason =>
    s!"Cannot convert value from '{source}' to '{target}': {reason}"
  | .invalidValue type => s!"Value is not a valid '{type}'"

/-- Where a type is declared: the plugin, and the key among its types. -/
structure TypeRef where
  plugin : String
  key : String
deriving DecidableEq

/-- What type names mean. -/
structure TypeScope where
  /-- The declaration a name resolves to, and where it stands. -/
  resolve? : String → Option (TypeRef × TypeDeclaration)
  /-- Whether a value satisfies a rule of the named type. -/
  checkRule : String → String → Json → Bool
  /-- The default of the named semantic type, from that of its base. -/
  refineDefault : String → Json → StateM Supply Json
  /-- Converts between two semantic types with the same base. -/
  convert : Json → String → String → Except TypeError Json

namespace TypeScope

/-- The declaration a name resolves to. -/
def lookup? (scope : TypeScope) (name : String) : Option TypeDeclaration :=
  (scope.resolve? name).map Prod.snd

end TypeScope

/-- How many references from type to type are followed at most. Longer chains, and so all
cycles, count as unresolved. -/
def maxTypeDepth : Nat := 32

end Dataflow
