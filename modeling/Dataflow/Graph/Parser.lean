import Dataflow.Graph.Basic
import Dataflow.Token.Cursor
/-!
# Reading graph descriptions

A graph description has a section `graph` and may have a section `import`. The body of
`graph` is an optional name on the line of its marker and then any number of blocks
`nodes`, `data`, `control` and `entry`. A parameter given twice keeps its later value.
-/

namespace Dataflow.Graph

open Dataflow.Parser

/-- What an imported name ends in. -/
def importSuffix : String := "anima"

/-- One import, not listed before. -/
def readImport (imports : List String) : Parser (List String) := do
  let (plugin, token) ← identifierToken "for an imported plugin"
  let _ ← expect .dot s!"in import '{plugin}'"
  let (suffix, suffixToken) ← identifierToken "for the import file suffix"
  if suffix ≠ importSuffix then
    failAt suffixToken s!"import '{plugin}.{suffix}' must reference a .{importSuffix} file"
  else if plugin ∈ imports then
    failAt token s!"plugin '{plugin}' imported twice"
  else
    return imports ++ [plugin]

/-- The truth value that a word stands for. -/
def truthValue? : String → Option Bool
  | "true" => some true
  | "false" => some false
  | _ => none

/-- The value of a literal token. -/
def literal? : TokenKind → Option Json
  | .integer n => some (.int n)
  | .text s => some (.str s)
  | .identifier word => (truthValue? word).map .bool
  | _ => none

/-- A literal: an integer, a text, `true` or `false`. -/
def readLiteral : Parser Json := do
  match (← get).peek?.bind (literal? ·.kind) with
  | some value =>
    let _ ← advance
    return value
  | none => unexpected "expected integer, string, true or false"

/-- One parameter of a node. -/
def readParameter (node : Node) : Parser Node := do
  let port ← identifier "for a parameter port"
  let _ ← expect .equals s!"after parameter '{port}'"
  let value ← readLiteral
  return node.withParameter port value

/-- One node: `id: plugin.Type`, with parameters in braces if there are any. -/
def readNode (g : Graph) : Parser Graph := do
  let (id, token) ← identifierToken "for a node id"
  if g.nodes.contains id then
    failAt token s!"node id '{id}' declared twice"
  else
    let _ ← expect .colon s!"after node id '{id}'"
    let plugin ← identifier s!"for the plugin of node '{id}'"
    let _ ← expect .dot s!"between plugin and node type of '{id}'"
    let type ← identifier s!"for the node type of '{id}'"
    let node := Node.named id plugin type
    if ← eat .openBrace then
      let node ← untilBrace readParameter node
      return g.addNode node
    else
      return g.addNode node

/-- An endpoint `node.port`. -/
def readEndpoint : Parser Endpoint := do
  let node ← identifier "for a node id"
  let _ ← expect .dot s!"after '{node}'"
  let port ← identifier s!"for a port of '{node}'"
  return ⟨node, port⟩

/-- One connection `a.x -> b.y`. -/
def readConnection (kind : ConnectionKind) (g : Graph) : Parser Graph := do
  let source ← readEndpoint
  let _ ← expect .arrow s!"after '{source.text}'"
  let target ← readEndpoint
  return g.connect ⟨source, target, kind⟩

/-- One entry point. -/
def readEntry (g : Graph) : Parser Graph := do
  let id ← identifier "for an entry point"
  return g.addEntry id

/-- One block of the graph section. -/
def readBlock (g : Graph) : Parser Graph := do
  let (block, token) ← identifierToken "for a graph block"
  let _ ← expect .openBrace s!"after '{block}'"
  match block with
  | "nodes" => untilBrace readNode g
  | "data" => untilBrace (readConnection .data) g
  | "control" => untilBrace (readConnection .control) g
  | "entry" => untilBrace readEntry g
  | other =>
    failAt token s!"unknown graph block '{other}', expected 'nodes', 'data', 'control' or 'entry'"

/-- The body of a section. -/
def readSection (name : String) (opening : Token) (g : Graph) : Parser Graph := do
  match name with
  | "import" =>
    let imports ← whileIdentifier readImport []
    return { g with imports }
  | "graph" =>
    match ← identifierOnLine? opening.position.line with
    | some name => whileIdentifier readBlock { g with name }
    | none => whileIdentifier readBlock g
  | other => failAt opening s!"unknown section '{other}', expected 'import' or 'graph'"

/-- A whole graph description: it must have a graph section. -/
def readGraph : Parser Graph := do
  let (g, seen) ← sections readSection (Graph.named "")
  if "graph" ∈ seen then
    return g
  else
    unexpected "expected a '-- graph' section"

/-- Reads a graph from the text of a `.weave` file. Its name is empty when the text gives none. -/
def parse (source : String) : Except ParseError Graph :=
  Parser.parse readGraph .weave source

end Dataflow.Graph
