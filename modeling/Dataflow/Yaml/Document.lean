import Dataflow.Yaml.Lexer
/-!
# YAML documents

`Document.parse` reads a text that holds one document. A document is a node; where a node
stands for an anchored one, it says for which, and the document says what that is.
-/

namespace Dataflow.Yaml

/-- What a document is made of. Only of scalars the tag is kept. -/
inductive Node where
  | scalar (tag? : Option String) (style : Style) (text : String)
  | sequence (entries : List Node)
  | mapping (pairs : List (Node × Node))
  /-- Stands for the anchored node of this number. -/
  | reference (number : Nat)

/-- The scalar that stands where nothing is written. -/
def Node.empty : Node := .scalar none .plain ""

/-- A document: its root, and its anchored nodes by their numbers. -/
structure Document where
  root : Node
  anchored : List (Nat × Node) := []

/-- What a node stands for. -/
def Document.resolve (d : Document) (n : Node) : Node :=
  match n with
  | .reference number => (d.anchored.lookup number).getD n
  | n => n

namespace Document

/-! ## Reading -/

/-- How far a document is read. -/
structure Progress where
  tokens : List PlacedToken
  /-- What the handles of tags stand for. -/
  handles : List (String × String) := []
  /-- The numbers of the anchors so far, the latest first. -/
  names : List (String × Nat) := []
  anchored : List (Nat × Node) := []

/-- Reading with progress. -/
abbrev Reader := StateT Progress (Except Fault)

namespace Reader

/-- The next token. -/
def peek? : Reader (Option Token) := return (← get).tokens.head?.map (·.token)

/-- Goes over the next token. -/
def advance : Reader Unit := modify fun p => { p with tokens := p.tokens.tail }

/-- Ends reading at the next token. -/
def fail {α : Type} (problem : Problem) : Reader α := fun p =>
  match p.tokens with
  | [] => .error ⟨problem, 0, 0⟩
  | t :: _ => .error ⟨problem, t.line, t.column⟩

/-- Whether the next token is one of some. -/
def sees (ts : List Token) : Reader Bool := return (← peek?).any ts.contains

/-! ## Tags and anchors -/

/-- What a tag is in full. -/
def fullTag (handle suffix : String) : Reader String := do
  if handle.isEmpty then return suffix
  else
    match (← get).handles.lookup handle with
    | some expansion => return expansion ++ suffix
    | none => fail .undefinedHandle

/-- Reads a tag if there is one. -/
def readTag? : Reader (Option String) := do
  match ← peek? with
  | some (.tag handle suffix) =>
    let tag ← fullTag handle suffix
    advance
    return some tag
  | _ => return none

/-- Reads an anchor if there is one, and gives it a number. -/
def readAnchor? : Reader (Option Nat) := do
  match ← peek? with
  | some (.anchor name) =>
    advance
    let number := (← get).names.length
    modify fun p => { p with names := (name, number) :: p.names }
    return some number
  | _ => return none

/-- Reads a tag and an anchor, in any order, as far as they are there. -/
def readProperties : Reader (Option String × Option Nat) := do
  match ← readAnchor? with
  | some number => return (← readTag?, some number)
  | none =>
    let tag? ← readTag?
    return (tag?, ← readAnchor?)

/-- Keeps a node under the number of its anchor. -/
def keep (number? : Option Nat) (n : Node) : Reader Node := do
  if let some number := number? then
    modify fun p => { p with anchored := (number, n) :: p.anchored }
  return n

/-- Reads the name of an anchored node, which the next token holds. -/
def readReference (name : String) : Reader Node := do
  match (← get).names.lookup name with
  | some number =>
    advance
    return .reference number
  | none => fail .undefinedName

/-- Goes over a comma between two parts of a flow collection. -/
def readComma (first : Bool) : Reader Unit := do
  if first then return ()
  else if ← sees [.flowEntry] then advance
  else fail .unbalanced

/-! ## Nodes -/

mutual

/-- Reads a node. A block collection can stand only where `block` says so; its sequence is not
indented, if at all, where `flat` says so. -/
def readNode (steps : Nat) (block flat : Bool) : Reader Node := do
  match steps with
  | 0 => fail .unbalanced
  | steps + 1 =>
    if let some (.reference name) ← peek? then readReference name
    else
      let (tag?, number?) ← readProperties
      keep number? (← readContent steps block flat tag? (tag?.isSome || number?.isSome))

/-- Reads a node behind its properties; if it has some, it can be empty. -/
def readContent (steps : Nat) (block flat : Bool) (tag? : Option String) (canBeEmpty : Bool) :
    Reader Node := do
  match steps with
  | 0 => fail .unbalanced
  | steps + 1 =>
    let empty : Reader Node :=
      if canBeEmpty then return .scalar tag? .plain "" else fail .missingContent
    match ← peek? with
    | some (.scalar style text) =>
      advance
      return .scalar tag? style text
    | some .flowSequenceStart =>
      advance
      return .sequence (← readFlowEntries steps true)
    | some .flowMappingStart =>
      advance
      return .mapping (← readFlowPairs steps true)
    | some .blockEntry => if flat then return .sequence (← readFlatEntries steps) else empty
    | some .blockSequenceStart =>
      if block then
        advance
        return .sequence (← readBlockEntries steps)
      else empty
    | some .blockMappingStart =>
      if block then
        advance
        return .mapping (← readBlockPairs steps)
      else empty
    | _ => empty

/-- Reads a node that is empty before certain tokens. -/
def readNodeUnless (steps : Nat) (block flat : Bool) (stops : List Token) : Reader Node := do
  match steps with
  | 0 => fail .unbalanced
  | steps + 1 => if ← sees stops then return .empty else readNode steps block flat

/-- Reads a value, which is empty where its indicator is missing. -/
def readValue (steps : Nat) (block : Bool) (stops : List Token) : Reader Node := do
  match steps with
  | 0 => fail .unbalanced
  | steps + 1 =>
    if ← sees [.value] then
      advance
      readNodeUnless steps block block stops
    else return .empty

/-- Reads the entries of an indented sequence. -/
def readBlockEntries (steps : Nat) : Reader (List Node) := do
  match steps with
  | 0 => fail .unbalanced
  | steps + 1 =>
    match ← peek? with
    | some .blockEntry =>
      advance
      let n ← readNodeUnless steps true false [.blockEntry, .blockEnd]
      return n :: (← readBlockEntries steps)
    | some .blockEnd =>
      advance
      return []
    | _ => fail .unbalanced

/-- Reads the entries of a sequence that stands at the column of its key. -/
def readFlatEntries (steps : Nat) : Reader (List Node) := do
  match steps with
  | 0 => fail .unbalanced
  | steps + 1 =>
    match ← peek? with
    | some .blockEntry =>
      advance
      let n ← readNodeUnless steps true false [.blockEntry, .key, .value, .blockEnd]
      return n :: (← readFlatEntries steps)
    | _ => return []

/-- Reads the pairs of an indented mapping. -/
def readBlockPairs (steps : Nat) : Reader (List (Node × Node)) := do
  match steps with
  | 0 => fail .unbalanced
  | steps + 1 =>
    match ← peek? with
    | some .key =>
      advance
      let key ← readNodeUnless steps true true [.key, .value, .blockEnd]
      let value ← readValue steps true [.key, .value, .blockEnd]
      return (key, value) :: (← readBlockPairs steps)
    | some .blockEnd =>
      advance
      return []
    | _ => fail .unbalanced

/-- Reads the entries of a sequence in brackets. A pair can stand for a mapping of its own. -/
def readFlowEntries (steps : Nat) (first : Bool) : Reader (List Node) := do
  match steps with
  | 0 => fail .unbalanced
  | steps + 1 =>
    if ← sees [.flowSequenceEnd] then
      advance
      return []
    else
      readComma first
      match ← peek? with
      | some .flowSequenceEnd =>
        advance
        return []
      | some .key =>
        advance
        let pair ← readSinglePair steps
        return .mapping [pair] :: (← readFlowEntries steps false)
      | _ =>
        let n ← readNode steps false false
        return n :: (← readFlowEntries steps false)

/-- Reads a pair in a sequence. The token that shows its key to be empty is passed over. -/
def readSinglePair (steps : Nat) : Reader (Node × Node) := do
  match steps with
  | 0 => fail .unbalanced
  | steps + 1 =>
    let stops := [.flowEntry, .flowSequenceEnd]
    let missing ← sees (.value :: stops)
    let key ← readNodeUnless steps false false (.value :: stops)
    if missing then advance
    return (key, ← readValue steps false stops)

/-- Reads the pairs of a mapping in braces. -/
def readFlowPairs (steps : Nat) (first : Bool) : Reader (List (Node × Node)) := do
  match steps with
  | 0 => fail .unbalanced
  | steps + 1 =>
    if ← sees [.flowMappingEnd] then
      advance
      return []
    else
      readComma first
      match ← peek? with
      | some .flowMappingEnd =>
        advance
        return []
      | some .key =>
        advance
        let key ← readNodeUnless steps false false [.value, .flowEntry, .flowMappingEnd]
        let value ← readValue steps false [.flowEntry, .flowMappingEnd]
        return (key, value) :: (← readFlowPairs steps false)
      | _ =>
        let key ← readNode steps false false
        return (key, .empty) :: (← readFlowPairs steps false)

end

/-! ## Documents -/

/-- Reads the directives of a document and the marker behind them. -/
def readDirectives (version? : Bool) : List PlacedToken → Reader Unit
  | [] => fail .missingDocumentStart
  | t :: rest => do
    match t.token with
    | .versionDirective major minor =>
      if version? then fail .repeatedDirective
      else if major ≠ 1 ∨ (minor ≠ 1 ∧ minor ≠ 2) then fail .unsupportedVersion
      else
        advance
        readDirectives true rest
    | .tagDirective handle expansion =>
      if ((← get).handles.lookup handle).isSome then fail .repeatedDirective
      else
        modify fun p => { p with handles := p.handles ++ [(handle, expansion)] }
        advance
        readDirectives version? rest
    | .documentStart => advance
    | _ => fail .missingDocumentStart

/-- The handles that need no declaration. -/
def standardHandles : List (String × String) := [("!", "!"), ("!!", "tag:yaml.org,2002:")]

/-- Reads the root of a document. It can be empty behind a start marker. -/
def readRoot (steps : Nat) : Reader Node := do
  match ← peek? with
  | some .documentStart | some (.versionDirective ..) | some (.tagDirective ..) =>
    readDirectives false (← get).tokens
    modify fun p => { p with handles := p.handles ++ standardHandles }
    match ← peek? with
    | none | some .documentStart | some .documentEnd => return .empty
    | some (.versionDirective ..) | some (.tagDirective ..) => return .empty
    | _ => readNode steps true false
  | _ =>
    modify fun p => { p with handles := standardHandles }
    readNode steps true false

/-- Checks that nothing but end markers follows. -/
def readEnd : Reader Unit := do
  modify fun p => { p with tokens := p.tokens.dropWhile (·.token = .documentEnd) }
  if (← peek?).isSome then fail .furtherDocument

/-- Reads a document; there is an empty one where nothing is written. -/
def readDocument (steps : Nat) : Reader Document := do
  match ← peek? with
  | none => return ⟨.empty, []⟩
  | some _ =>
    let root ← readRoot steps
    readEnd
    return ⟨root, (← get).anchored⟩

end Reader

/-- The document that tokens make up. A token takes less than five steps. -/
def ofTokens (ts : List PlacedToken) : Except Fault Document :=
  ((Reader.readDocument (5 * ts.length + 5)).run { tokens := ts }).map (·.1)

/-- Reads a text that holds one document, or none. -/
def parse (text : String) : Except Fault Document := do
  ofTokens (← tokenize text)

end Document

end Dataflow.Yaml
