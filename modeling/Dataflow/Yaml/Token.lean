import Dataflow.Yaml.Cursor
/-!
# YAML tokens

The tokens of a YAML text and the faults that reading one can end in. Besides what is written
there are tokens for what indentation means: where a block collection starts and ends.
-/

namespace Dataflow.Yaml

/-- How a scalar is written. -/
inductive Style where
  | plain
  | singleQuoted
  | doubleQuoted
  | literal
  | folded
deriving DecidableEq

inductive Token where
  | versionDirective (major minor : Nat)
  /-- Declares that tags with this handle start with `expansion`. -/
  | tagDirective (handle expansion : String)
  | documentStart
  | documentEnd
  | blockSequenceStart
  | blockMappingStart
  | blockEnd
  | flowSequenceStart
  | flowSequenceEnd
  | flowMappingStart
  | flowMappingEnd
  | blockEntry
  | flowEntry
  | key
  | value
  /-- The name of an anchored node, which stands for that node. -/
  | reference (name : String)
  | anchor (name : String)
  | tag (handle suffix : String)
  | scalar (style : Style) (text : String)
deriving DecidableEq

/-- A token and where it starts; lines and columns are counted from zero. -/
structure PlacedToken where
  token : Token
  line : Nat
  column : Nat
deriving DecidableEq

/-- Why a text is not a YAML document. -/
inductive Problem where
  | forbiddenCharacter
  | unexpectedCharacter
  | tabInIndentation
  | ambiguousColon
  | unclosedQuote
  | markerInQuote
  | badEscape
  | badBlockHeader
  | badName
  | badTag
  | badDirective
  | missingColon
  | misplacedEntry
  | misplacedKey
  | misplacedValue
  | unsupportedVersion
  | repeatedDirective
  | undefinedHandle
  | undefinedName
  | missingContent
  | unbalanced
  | missingDocumentStart
  | furtherDocument
deriving DecidableEq

/-- The words for a problem. -/
def Problem.message : Problem → String
  | .forbiddenCharacter => "this character may not stand in a document"
  | .unexpectedCharacter => "no token starts with this character"
  | .tabInIndentation => "a tab stands where indentation is expected"
  | .ambiguousColon => "a colon may not stand here in a plain scalar"
  | .unclosedQuote => "the quote is not closed"
  | .markerInQuote => "a document marker stands in a quoted scalar"
  | .badEscape => "there is no such escape"
  | .badBlockHeader => "the header of a block scalar is malformed"
  | .badName => "the name of an anchor is malformed"
  | .badTag => "the tag is malformed"
  | .badDirective => "the directive is malformed or unknown"
  | .missingColon => "a key has no colon"
  | .misplacedEntry => "a sequence entry may not start here"
  | .misplacedKey => "a mapping key may not start here"
  | .misplacedValue => "a mapping value may not start here"
  | .unsupportedVersion => "this version is not supported"
  | .repeatedDirective => "a directive is repeated"
  | .undefinedHandle => "the handle of a tag is not declared"
  | .undefinedName => "no anchor has this name"
  | .missingContent => "a node is missing"
  | .unbalanced => "a collection is not continued or closed"
  | .missingDocumentStart => "a document start marker is missing"
  | .furtherDocument => "the text goes on after its document"

/-- A problem and the place it was found at; lines and columns are counted from zero. -/
structure Fault where
  problem : Problem
  line : Nat
  column : Nat
deriving DecidableEq

/-- The message of a fault, with the place counted from one. -/
def Fault.message (f : Fault) : String :=
  s!"{f.problem.message} at line {f.line + 1} column {f.column + 1}"

/-- A token that starts at a place. -/
def Cursor.placed (c : Cursor) (t : Token) : PlacedToken := ⟨t, c.line, c.column⟩

/-- Ends reading at a place. -/
def Cursor.fail {α : Type} (c : Cursor) (problem : Problem) : Except Fault α :=
  .error ⟨problem, c.line, c.column⟩

end Dataflow.Yaml
