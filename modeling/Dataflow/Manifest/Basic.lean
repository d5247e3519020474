import Dataflow.Declaration
/-!
# Manifests

A manifest is what the text of an `.anima` file says of a plugin: the names of its types,
the fields of the composite ones, and its nodes with their ports. Bases and rules of
types are not part of it.
-/

namespace Dataflow

/-- A type of a manifest; only composite types have fields. -/
structure ManifestType where
  name : String
  fields? : Option (OrderedMap String)
deriving DecidableEq

/-- Whether the type is declared with fields. -/
def ManifestType.isComposite (t : ManifestType) : Bool := t.fields?.isSome

/-- A node of a manifest. -/
structure ManifestNode where
  name : String
  mode : NodeMode
  inputs : OrderedMap String
  outputs : OrderedMap String
deriving DecidableEq

/-- The types and nodes of a manifest in the order of the text. -/
structure Manifest where
  types : List ManifestType
  nodes : List ManifestNode
deriving DecidableEq

namespace Manifest

/-- The manifest of an empty text. -/
def empty : Manifest := ⟨[], []⟩

/-- The type with this name. -/
def findType? (m : Manifest) (name : String) : Option ManifestType :=
  m.types.find? (·.name = name)

/-- The node with this name. -/
def findNode? (m : Manifest) (name : String) : Option ManifestNode :=
  m.nodes.find? (·.name = name)

end Manifest

end Dataflow
