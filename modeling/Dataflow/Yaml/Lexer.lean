import Dataflow.Yaml.Scalar
import Dataflow.Yaml.Tag
/-!
# From text to YAML tokens

`tokenize` gives the tokens of a text. Two things make this more than reading one token after
another. Indentation opens and closes block collections, so the lexer keeps the columns of those
that are open. And a key is known as such only by the colon behind it, so the lexer keeps for each
open flow collection where a key may have started, and puts the key token there later.
-/

namespace Dataflow.Yaml

/-- A place where a key may have started. -/
structure KeyStart where
  /-- How many tokens stand before it. -/
  slot : Nat
  /-- Whether it can be nothing but a key. -/
  required : Bool
  place : Cursor

namespace KeyStart

/-- The greatest number of characters in a key without an indicator. -/
def maxLength : Nat := 1024

/-- Whether the key would go over several lines or be too long at `c`. -/
def isStale (k : KeyStart) (c : Cursor) : Bool :=
  k.place.line < c.line || k.place.index + maxLength < c.index

/-- Gives up a key, which is a fault if one is required. -/
def giveUp (k : KeyStart) : Except Fault (Option KeyStart) :=
  if k.required then k.place.fail .missingColon else .ok none

/-- Gives up a key that is stale at `c`. -/
def expire (c : Cursor) : Option KeyStart → Except Fault (Option KeyStart)
  | none => .ok none
  | some k => if k.isStale c then k.giveUp else .ok (some k)

end KeyStart

/-- A text that is read up to a place. -/
structure Lexer where
  cursor : Cursor
  tokens : Array PlacedToken := #[]
  /-- The column of the innermost block collection. -/
  indent : Int := -1
  /-- The columns of the block collections around it, from the inside. -/
  outerIndents : List Int := []
  /-- Where a key may have started in the innermost collection. -/
  keyStart? : Option KeyStart := none
  /-- The same for what is around each open flow collection, from the inside. -/
  outerKeyStarts : List (Option KeyStart) := []
  /-- Whether a key may start here. -/
  keyAllowed : Bool := true

namespace Lexer

/-- Whether the place is within a flow collection. -/
def inFlow (l : Lexer) : Bool := !l.outerKeyStarts.isEmpty

/-- Adds a token. -/
def emit (l : Lexer) (t : Token) : Lexer :=
  { l with tokens := l.tokens.push (l.cursor.placed t) }

/-- Adds a token and goes over the characters it takes. -/
def emitOver (l : Lexer) (t : Token) (size : Nat) : Lexer :=
  { l.emit t with cursor := l.cursor.forward size }

/-- Puts a token that starts at `place` before those from `slot` on. -/
def insert (l : Lexer) (slot : Nat) (place : Cursor) (t : Token) : Lexer :=
  { l with tokens := l.tokens.insertIdxIfInBounds slot (place.placed t) }

/-! ## Indentation -/

/-- Closes the block collections that stand further right than `column`: those at `indent` and
at some of the columns around it. -/
def closeBlocks (close : PlacedToken) (column : Int) (tokens : Array PlacedToken) (indent : Int) :
    List Int → Array PlacedToken × Int × List Int
  | [] => (tokens, indent, [])
  | outer :: rest =>
    if column < indent then closeBlocks close column (tokens.push close) outer rest
    else (tokens, indent, outer :: rest)

/-- Closes the block collections that stand further right than `column`; a flow collection goes on. -/
def unindent (l : Lexer) (column : Int) : Lexer :=
  if l.inFlow then l
  else
    let (tokens, indent, outerIndents) :=
      closeBlocks (l.cursor.placed .blockEnd) column l.tokens l.indent l.outerIndents
    { l with tokens, indent, outerIndents }

/-- Opens a block collection before the token at `slot`, which starts at `place`, if that is
further right than the innermost one. -/
def openBlock (l : Lexer) (slot : Nat) (place : Cursor) (t : Token) : Lexer :=
  if l.inFlow || !decide (l.indent < place.column) then l
  else
    { l.insert slot place t with
      indent := place.column, outerIndents := l.indent :: l.outerIndents }

/-- Opens a block collection here. -/
def openBlockHere (l : Lexer) (t : Token) : Lexer := l.openBlock l.tokens.size l.cursor t

/-! ## Keys -/

/-- Gives up the key that may have started in the innermost collection. -/
def giveUpKey (l : Lexer) : Except Fault Lexer :=
  match l.keyStart? with
  | none => .ok l
  | some k => k.giveUp.map fun keyStart? => { l with keyStart? }

/-- Gives up the keys that are stale. -/
def expireKeys (l : Lexer) : Except Fault Lexer := do
  let outerKeyStarts ← l.outerKeyStarts.mapM (KeyStart.expire l.cursor)
  let keyStart? ← KeyStart.expire l.cursor l.keyStart?
  return { l with keyStart?, outerKeyStarts }

/-- Notes that a key may start here. At the column of its collection it has to be one. -/
def noteKey (l : Lexer) : Except Fault Lexer := do
  if l.keyAllowed then
    let l ← l.giveUpKey
    let required := !l.inFlow && l.indent = l.cursor.column
    return { l with keyStart? := some ⟨l.tokens.size, required, l.cursor⟩ }
  else return l

/-! ## Separation -/

/-- Goes over blanks and a comment. Where a key may start a tab is no blank. -/
def skipInLine (tabs : Bool) (c : Cursor) : Cursor :=
  let c := c.skip fun x => x = ' ' || (tabs && x = '\t')
  if c.sees '#' then c.skip (!isBreak ·) else c

theorem length_skipInLine_le (tabs : Bool) (c : Cursor) :
    (skipInLine tabs c).rest.length ≤ c.rest.length := by
  unfold skipInLine
  dsimp only
  split
  · exact Nat.le_trans (c.skip _ |>.length_skip_le _) (c.length_skip_le _)
  · exact c.length_skip_le _

/-- Goes over blanks, comments and line breaks, and says whether a key may start behind them.
Outside of flow collections a new line lets a key start. -/
def separate (inFlow keyAllowed : Bool) (c : Cursor) : Cursor × Bool :=
  if _h : (skipInLine (inFlow || !keyAllowed) c).looksAt 0 isBreak = true then
    separate inFlow (keyAllowed || !inFlow) (skipInLine (inFlow || !keyAllowed) c).nextLine
  else (skipInLine (inFlow || !keyAllowed) c, keyAllowed)
termination_by c.rest.length
decreasing_by
  exact Nat.lt_of_lt_of_le (Cursor.length_nextLine_lt (Cursor.atEnd_of_looksAt _h))
    (length_skipInLine_le _ c)

/-- Goes to the next token, and closes what its column closes. -/
def toNextToken (l : Lexer) : Except Fault Lexer := do
  let (cursor, keyAllowed) := separate l.inFlow l.keyAllowed l.cursor
  let l ← expireKeys { l with cursor, keyAllowed }
  return l.unindent cursor.column

/-! ## Tokens -/

/-- Ends the document so far, for a directive, a marker or the end of the text. -/
def closeDocument (l : Lexer) : Except Fault Lexer := do
  let l ← (l.unindent (-1)).giveUpKey
  return { l with keyAllowed := false }

/-- Adds a token that is read at the place. -/
def emitRead (l : Lexer) (read : Except Fault (Token × Cursor)) : Except Fault Lexer :=
  read.map fun (t, cursor) => { l.emit t with cursor }

def readDirectiveLine (l : Lexer) : Except Fault Lexer := do
  let l ← l.closeDocument
  l.emitRead (readDirective l.cursor)

def readDocumentMarker (l : Lexer) : Except Fault Lexer := do
  let l ← l.closeDocument
  return l.emitOver (if l.cursor.sees '-' then .documentStart else .documentEnd) 3

def openFlow (l : Lexer) (t : Token) : Except Fault Lexer := do
  let l ← l.noteKey
  return { l.emitOver t 1 with
    keyStart? := none, outerKeyStarts := l.keyStart? :: l.outerKeyStarts, keyAllowed := true }

def closeFlow (l : Lexer) (t : Token) : Except Fault Lexer := do
  let l ← l.giveUpKey
  let (keyStart?, outerKeyStarts) :=
    match l.outerKeyStarts with
    | [] => (l.keyStart?, [])
    | k :: outer => (k, outer)
  return { l.emitOver t 1 with keyStart?, outerKeyStarts, keyAllowed := false }

def readFlowEntry (l : Lexer) : Except Fault Lexer := do
  let l ← l.giveUpKey
  return { l.emitOver .flowEntry 1 with keyAllowed := true }

def readBlockEntry (l : Lexer) : Except Fault Lexer := do
  if !l.inFlow && !l.keyAllowed then l.cursor.fail .misplacedEntry
  else
    let l ← (l.openBlockHere .blockSequenceStart).giveUpKey
    return { l.emitOver .blockEntry 1 with keyAllowed := true }

def readKeyIndicator (l : Lexer) : Except Fault Lexer := do
  if !l.inFlow && !l.keyAllowed then l.cursor.fail .misplacedKey
  else
    let l ← (l.openBlockHere .blockMappingStart).giveUpKey
    return { l.emitOver .key 1 with keyAllowed := !l.inFlow }

/-- Reads the indicator of a value. If a key may have started, it did. -/
def readValueIndicator (l : Lexer) : Except Fault Lexer :=
  match l.keyStart? with
  | some k =>
    let l := (l.insert k.slot k.place .key).openBlock k.slot k.place .blockMappingStart
    .ok { l.emitOver .value 1 with keyStart? := none, keyAllowed := false }
  | none =>
    if !l.inFlow && !l.keyAllowed then l.cursor.fail .misplacedValue
    else
      let l := l.openBlockHere .blockMappingStart
      .ok { l.emitOver .value 1 with keyAllowed := !l.inFlow }

/-- Whether a name can end before this character. -/
def endsName (c : Char) : Bool := isSpace c || "?:,]\x7d%@`".toList.contains c

/-- Reads a name behind its indicator. -/
def readName (make : String → Token) (c : Cursor) : Except Fault (Token × Cursor) :=
  let (name, next) := (c.forward 1).span isWord
  if name.isEmpty || !(next.peek? 0).all endsName then c.fail .badName
  else .ok (make (String.ofList name), next)

/-- Reads what can start a key: a name, a tag or a quoted scalar. -/
def readKeyPart (l : Lexer) (read : Cursor → Except Fault (Token × Cursor)) :
    Except Fault Lexer := do
  let l ← l.noteKey
  emitRead { l with keyAllowed := false } (read l.cursor)

def readQuotedScalar (quote : Char) (style : Style) (c : Cursor) :
    Except Fault (Token × Cursor) := do
  let (text, next) ← readQuoted quote [] (c.forward 1)
  return (.scalar style (String.ofList text), next)

def readBlockScalar (l : Lexer) (style : Style) : Except Fault Lexer := do
  let l ← l.giveUpKey
  let (text, cursor) ← readBlock (style = .folded) l.indent (l.cursor.forward 1)
  return { l.emit (.scalar style (String.ofList text)) with cursor, keyAllowed := true }

def readPlainScalar (l : Lexer) : Except Fault Lexer := do
  let l ← l.noteKey
  let scalar ← readPlain l.inFlow (l.indent + 1).toNat [] {} l.cursor
  return { l.emit (.scalar .plain (String.ofList scalar.text)) with
    cursor := scalar.after, keyAllowed := scalar.lineEnded }

/-- Whether a plain scalar starts with `x`. -/
def startsPlain (l : Lexer) (x : Char) : Bool :=
  if x = '-' then !l.cursor.looksAt 1 isBlank
  else if x = '?' || x = ':' then !l.inFlow && !l.cursor.separated 1
  else !isSpace x && !"-?:,[]\x7b\x7d#&*!|>'\"%@`".toList.contains x

/-- Reads the token that starts with `x`. -/
def readToken (l : Lexer) (x : Char) : Except Fault Lexer :=
  if l.cursor.column = 0 && x = '%' then l.readDirectiveLine
  else if l.cursor.atDocumentMarker then l.readDocumentMarker
  else if x = '[' then l.openFlow .flowSequenceStart
  else if x = '{' then l.openFlow .flowMappingStart
  else if x = ']' then l.closeFlow .flowSequenceEnd
  else if x = '}' then l.closeFlow .flowMappingEnd
  else if x = ',' then l.readFlowEntry
  else if x = '-' && l.cursor.separated 1 then l.readBlockEntry
  else if x = '?' && (l.inFlow || l.cursor.separated 1) then l.readKeyIndicator
  else if x = ':' && (l.inFlow || l.cursor.separated 1) then l.readValueIndicator
  else if x = '*' then l.readKeyPart (readName .reference)
  else if x = '&' then l.readKeyPart (readName .anchor)
  else if x = '!' then l.readKeyPart (readTag l.inFlow)
  else if x = '|' && !l.inFlow then l.readBlockScalar .literal
  else if x = '>' && !l.inFlow then l.readBlockScalar .folded
  else if x = '\'' then l.readKeyPart (readQuotedScalar x .singleQuoted)
  else if x = '"' then l.readKeyPart (readQuotedScalar x .doubleQuoted)
  else if l.startsPlain x then l.readPlainScalar
  else l.cursor.fail .unexpectedCharacter

/-- Reads all tokens. Each takes a character at least, so as many steps as characters suffice. -/
def run : Nat → Lexer → Except Fault (List PlacedToken)
  | 0, l => l.cursor.fail .unexpectedCharacter
  | steps + 1, l => do
    let l ← l.toNextToken
    match l.cursor.peek? 0 with
    | none =>
      let l ← l.closeDocument
      return l.tokens.toList
    | some x => run steps (← l.readToken x)

end Lexer

/-- The place of the first character in a text that may not stand in it. -/
def forbidden? (cs : List Char) : Option Cursor :=
  if cs.all isAllowed then none else some (Cursor.skip ⟨cs, 0, 0, 0⟩ isAllowed)

/-- The tokens of a text. A byte order mark at its start is no part of it. -/
def tokenize (text : String) : Except Fault (List PlacedToken) :=
  let cs := match text.toList with
    | '\ufeff' :: cs => cs
    | cs => cs
  match forbidden? cs with
  | some c => c.fail .forbiddenCharacter
  | none => Lexer.run (cs.length + 1) { cursor := ⟨cs, 0, 0, 0⟩ }

end Dataflow.Yaml
