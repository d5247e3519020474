import Dataflow.Document.Declaration
import Dataflow.Manifest.Basic
/-!
# Manifests as JSON documents

Fields are read and written as `Dataflow.Document.Record` says. A type has its fields or `null`.
-/

namespace Dataflow

open Document

namespace ManifestType

/-- The document of a type; one without fields has `null` for them. -/
def toJson (t : ManifestType) : Json :=
  .obj [("name", .str t.name), ("fields", ofOption (ofMap ofText) t.fields?)]

/-- The type of a document. -/
def ofJson? (j : Json) : Option ManifestType := do
  let r ← record? ["name", "fields"] j
  return ⟨← r.required "name" Json.str?, ← r.optional "fields" (map? Json.str?)⟩

end ManifestType

namespace ManifestNode

/-- The document of a node. -/
def toJson (n : ManifestNode) : Json :=
  .obj [("name", .str n.name), ("mode", .str n.mode.name), ("inputs", ofMap ofText n.inputs),
    ("outputs", ofMap ofText n.outputs)]

/-- The node of a document. -/
def ofJson? (j : Json) : Option ManifestNode := do
  let r ← record? ["name", "mode", "inputs", "outputs"] j
  return {
    name := ← r.required "name" Json.str?
    mode := ← r.required "mode" (choice? NodeMode.ofName?)
    inputs := ← r.required "inputs" (map? Json.str?)
    outputs := ← r.required "outputs" (map? Json.str?) }

end ManifestNode

namespace Manifest

/-- The document of a manifest. -/
def toJson (m : Manifest) : Json :=
  .obj [("types", ofList ManifestType.toJson m.types),
    ("nodes", ofList ManifestNode.toJson m.nodes)]

/-- The manifest of a document. -/
def ofJson? (j : Json) : Option Manifest := do
  let r ← record? ["types", "nodes"] j
  return ⟨← r.required "types" (list? ManifestType.ofJson?),
    ← r.required "nodes" (list? ManifestNode.ofJson?)⟩

end Manifest

end Dataflow
