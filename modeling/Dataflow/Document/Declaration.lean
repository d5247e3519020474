import Dataflow.Declaration
import Dataflow.Document.Record
/-!
# Declarations as JSON documents

A type is an object with its name, its kind and what the kind asks for. The kind is given by
name or by its number; the fields of the other kinds are passed over.

As derived readers are documented, the kind is a tag whose fields are flattened into those of the type.
What is flattened is taken up as values before it is read, so it nests within the limit, and a type is
never given by position.
-/

namespace Dataflow

open Document

namespace PrimitiveType

/-- The name of a shape in documents. -/
def name : PrimitiveType → String
  | .boolean => "boolean"
  | .integer => "integer"
  | .string => "string"

/-- The shape with this name. -/
def ofName? (name : String) : Option PrimitiveType :=
  if name = "boolean" then some .boolean
  else if name = "integer" then some .integer
  else if name = "string" then some .string
  else none

end PrimitiveType

namespace TypeKind

/-- What a document says of a kind beside its name. -/
def fields : TypeKind → List (String × Json)
  | .primitive shape => [("primitive", .str shape.name)]
  | .semantic base rules => [("base_type", .str base), ("validation_rules", ofList ofText rules)]
  | .composite fields => [("fields", ofMap ofText fields)]

/-- The kind with the given name that some fields describe. -/
def ofFields? (kind : String) (j : Json) : Option TypeKind :=
  match kind with
  | "primitive" => do
    let r ← record? ["primitive"] j
    return .primitive (← r.required "primitive" (choice? PrimitiveType.ofName?))
  | "semantic" => do
    let r ← record? ["base_type", "validation_rules"] j
    return .semantic (← r.required "base_type" Json.str?)
      (← r.withDefault "validation_rules" [] (list? Json.str?))
  | "composite" => do
    let r ← record? ["fields"] j
    return .composite (← r.required "fields" (map? Json.str?))
  | _ => none

/-- The name of a kind, also given by its number. -/
def kindName? : Json → Option String
  | .str name => some name
  | .whole n => (["primitive", "semantic", "composite"])[n.val.toNat]?.filter fun _ => 0 ≤ n.val
  | _ => none

end TypeKind

namespace TypeDeclaration

/-- The document of a type. -/
def toJson (t : TypeDeclaration) : Json :=
  .obj (("name", .str t.name) :: ("kind", .str t.kind.name) :: t.kind.fields)

/-- How deep the values of a type document nest at most. -/
def maxFieldDepth : Nat := Json.maxDepth - 1

/-- The type of a document. -/
def ofJson? (j : Json) : Option TypeDeclaration := do
  let members ← j.members?
  guard (members.all fun (_, v) => (v.valueWithin maxFieldDepth).isSome)
  let r ← record? ["name", "kind"] j
  let name ← r.required "name" Json.str?
  let kind ← r.required "kind" TypeKind.kindName?
  let others := members.filter fun (k, _) => k ≠ "name" ∧ k ≠ "kind"
  return ⟨name, ← TypeKind.ofFields? kind (.obj others)⟩

end TypeDeclaration

/-- The mode with this name. -/
def NodeMode.ofName? (name : String) : Option NodeMode :=
  match NodeMode.ofName name with
  | .ok mode => some mode
  | .error _ => none

namespace NodeDeclaration

/-- The document of a node declaration; a node without description has no field for it. -/
def toJson (n : NodeDeclaration) : Json :=
  .obj ([("name", .str n.name), ("inputs", ofMap ofText n.inputs),
    ("outputs", ofMap ofText n.outputs), ("mode", .str n.mode.name)] ++
    match n.description? with
    | some description => [("description", .str description)]
    | none => [])

/-- The node declaration of a document. -/
def ofJson? (j : Json) : Option NodeDeclaration := do
  let r ← record? ["name", "inputs", "outputs", "mode", "description"] j
  return {
    name := ← r.required "name" Json.str?
    inputs := ← r.required "inputs" (map? Json.str?)
    outputs := ← r.required "outputs" (map? Json.str?)
    mode := ← r.withDefault "mode" .concurrent (choice? NodeMode.ofName?)
    description? := ← r.withDefault "description" none (nullable? Json.str?) }

end NodeDeclaration

namespace PluginDeclaration

/-- The document of a plugin declaration. -/
def toJson (p : PluginDeclaration) : Json :=
  .obj [("metadata", .obj [("name", .str p.name), ("version", .str p.version),
      ("description", .str p.description)]),
    ("types", ofMap TypeDeclaration.toJson p.types),
    ("nodes", ofMap NodeDeclaration.toJson p.nodes)]

/-- The plugin declaration of a document. -/
def ofJson? (j : Json) : Option PluginDeclaration := do
  let r ← record? ["metadata", "types", "nodes"] j
  let metadata ← r.required "metadata" (record? ["name", "version", "description"])
  return {
    name := ← metadata.required "name" Json.str?
    version := ← metadata.required "version" Json.str?
    description := ← metadata.required "description" Json.str?
    types := ← r.required "types" (map? TypeDeclaration.ofJson?)
    nodes := ← r.required "nodes" (map? NodeDeclaration.ofJson?) }

end PluginDeclaration

end Dataflow
