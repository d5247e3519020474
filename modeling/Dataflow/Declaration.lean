import Dataflow.OrderedMap
/-!
# What a plugin declares

A plugin declares types and nodes. A type is primitive, a refinement of another type
(semantic) or a record (composite); a node has typed input and output ports. Types refer
to each other by name, bare or as `plugin.Type`. Declarations keep the order they are made in.
-/

namespace Dataflow

/-- The shapes of values that primitive types stand for. -/
inductive PrimitiveType where
  | boolean
  | integer
  | string
deriving DecidableEq

/-- What kind of type is declared. -/
inductive TypeKind where
  | primitive (shape : PrimitiveType)
  /-- The values of a base type that satisfy some rules; the plugin knows what the rules mean. -/
  | semantic (base : String) (rules : List String)
  /-- Records with at least these fields. -/
  | composite (fields : OrderedMap String)
deriving DecidableEq

/-- The name of the kind. -/
def TypeKind.name : TypeKind → String
  | .primitive _ => "primitive"
  | .semantic _ _ => "semantic"
  | .composite _ => "composite"

/-- A declared type. -/
structure TypeDeclaration where
  name : String
  kind : TypeKind
deriving DecidableEq

namespace TypeDeclaration

/-- The base of a semantic type. -/
def base? (t : TypeDeclaration) : Option String :=
  match t.kind with
  | .semantic base _ => some base
  | _ => none

/-- The fields of a composite type. -/
def fields? (t : TypeDeclaration) : Option (OrderedMap String) :=
  match t.kind with
  | .composite fields => some fields
  | _ => none

end TypeDeclaration

/-- Whether the author of a node wants it run beside others. Kept and shown, never obeyed. -/
inductive NodeMode where
  | concurrent
  | sequential
deriving DecidableEq, Inhabited

/-- A name that is not that of a mode. -/
structure UnknownMode where
  name : String

/-- The message of an unknown mode. -/
def UnknownMode.message (e : UnknownMode) : String := s!"unknown node mode '{e.name}'"

namespace NodeMode

/-- The name of the mode. -/
def name : NodeMode → String
  | .concurrent => "Concurrent"
  | .sequential => "Sequential"

/-- The mode of this name. -/
def ofName (name : String) : Except UnknownMode NodeMode :=
  if name = "Concurrent" then .ok .concurrent
  else if name = "Sequential" then .ok .sequential
  else .error ⟨name⟩

/-- A mode is read back from its name. -/
theorem ofName_name (m : NodeMode) : ofName m.name = .ok m := by
  cases m <;> simp [ofName, name]

end NodeMode

/-- A declared node: its ports with their types, in order. -/
structure NodeDeclaration where
  name : String
  inputs : OrderedMap String
  outputs : OrderedMap String
  mode : NodeMode
  description? : Option String
deriving DecidableEq

namespace NodeDeclaration

/-- A node without ports. -/
def named (name : String) : NodeDeclaration := ⟨name, ∅, ∅, .concurrent, none⟩

/-- Declares an input port. -/
def input (n : NodeDeclaration) (port type : String) : NodeDeclaration :=
  { n with inputs := n.inputs.insert port type }

/-- Declares an output port. -/
def output (n : NodeDeclaration) (port type : String) : NodeDeclaration :=
  { n with outputs := n.outputs.insert port type }

/-- Sets the mode. -/
def withMode (n : NodeDeclaration) (mode : NodeMode) : NodeDeclaration := { n with mode }

/-- Describes the node. -/
def described (n : NodeDeclaration) (description : String) : NodeDeclaration :=
  { n with description? := some description }

end NodeDeclaration

/-- Everything a plugin declares. -/
structure PluginDeclaration where
  name : String
  version : String
  description : String
  types : OrderedMap TypeDeclaration
  nodes : OrderedMap NodeDeclaration
deriving DecidableEq

namespace PluginDeclaration

/-- A plugin without types and nodes. -/
def named (name version description : String) : PluginDeclaration :=
  ⟨name, version, description, ∅, ∅⟩

/-- Declares a type under its own name. -/
def withType (p : PluginDeclaration) (t : TypeDeclaration) : PluginDeclaration :=
  { p with types := p.types.insert t.name t }

/-- Declares a node under its own name. -/
def withNode (p : PluginDeclaration) (n : NodeDeclaration) : PluginDeclaration :=
  { p with nodes := p.nodes.insert n.name n }

end PluginDeclaration

/-- Splits `plugin.Type` at the first dot; a bare name has no plugin. -/
def splitQualified (name : String) : Option String × String :=
  let cs := name.toList
  match cs.dropWhile (· ≠ '.') with
  | _ :: bare => (some (String.ofList (cs.takeWhile (· ≠ '.'))), String.ofList bare)
  | [] => (none, name)

end Dataflow
