import Dataflow.Manifest.Basic
import Dataflow.Token.Cursor
/-!
# Reading manifests

A manifest has a section `types` and a section `nodes`, both optional and in any order.
A type is a name, for composite types with fields in braces. A node is a name with
attributes in braces: `mode`, `in` and `out`; of an attribute given twice the later one counts.
-/

namespace Dataflow.Manifest

open Dataflow.Parser

/-- One pair of a name and a type name, not declared before. -/
def readPair (what : String) (pairs : OrderedMap String) : Parser (OrderedMap String) := do
  let (name, token) ← identifierToken s!"for a {what} name"
  let type ← typeName s!"for the type of {what} '{name}'"
  if pairs.contains name then
    failAt token s!"{what} '{name}' declared twice"
  else
    return pairs.insert name type

/-- Pairs of a name and a type name, up to the closing brace. -/
def readPairs (what : String) : Parser (OrderedMap String) :=
  untilBrace (readPair what) ∅

/-- One type, not declared before. -/
def readType (types : List ManifestType) : Parser (List ManifestType) := do
  let (name, token) ← identifierToken "for a type name"
  if types.any (·.name = name) then
    failAt token s!"type '{name}' declared twice"
  else if ← eat .openBrace then
    let fields ← readPairs "field"
    return types ++ [⟨name, some fields⟩]
  else
    return types ++ [⟨name, none⟩]

/-- One attribute of a node. -/
def readAttribute (node : ManifestNode) : Parser ManifestNode := do
  let (keyword, token) ← identifierToken "for 'mode', 'in' or 'out'"
  match keyword with
  | "mode" =>
    let (name, token) ← identifierToken "for the node mode"
    match NodeMode.ofName name with
    | .ok mode => return { node with mode }
    | .error e => failAt token e.message
  | "in" =>
    let _ ← expect .openBrace "after 'in'"
    let inputs ← readPairs "input port"
    return { node with inputs }
  | "out" =>
    let _ ← expect .openBrace "after 'out'"
    let outputs ← readPairs "output port"
    return { node with outputs }
  | other =>
    failAt token s!"unknown node attribute '{other}', expected 'mode', 'in' or 'out'"

/-- One node, not declared before. -/
def readNode (nodes : List ManifestNode) : Parser (List ManifestNode) := do
  let (name, token) ← identifierToken "for a node name"
  if nodes.any (·.name = name) then
    failAt token s!"node '{name}' declared twice"
  else
    let _ ← expect .openBrace "after node name"
    let node ← untilBrace readAttribute ⟨name, .concurrent, ∅, ∅⟩
    return nodes ++ [node]

/-- The body of a section. -/
def readSection (name : String) (opening : Token) (m : Manifest) : Parser Manifest := do
  match name with
  | "types" =>
    let types ← whileIdentifier readType []
    return { m with types }
  | "nodes" =>
    let nodes ← whileIdentifier readNode []
    return { m with nodes }
  | other => failAt opening s!"unknown section '{other}', expected 'types' or 'nodes'"

/-- Reads a manifest from the text of an `.anima` file. -/
def parse (source : String) : Except ParseError Manifest :=
  Parser.parse (do return (← sections readSection empty).1) .anima source

end Dataflow.Manifest
