/-!
# Tokens

The tokens of the two file formats, graph descriptions (`.weave`) and plugin manifests
(`.anima`), the places they stand at, and the errors that reading them ends in.
-/

namespace Dataflow

/-- The two file formats. They share their tokens and differ in their sections. -/
inductive Language where
  | weave
  | anima
deriving DecidableEq

/-- The name of the format in messages. -/
def Language.name : Language → String
  | .weave => "weave"
  | .anima => "anima"

/-- A place in a text: line and column, both counted from one, columns in characters. -/
structure Position where
  line : Nat
  column : Nat
deriving DecidableEq, Inhabited

namespace Position

/-- The place of the first character. -/
def start : Position := ⟨1, 1⟩

/-- The place after one character. -/
def after (p : Position) (c : Char) : Position :=
  if c = '\n' then ⟨p.line + 1, 1⟩ else ⟨p.line, p.column + 1⟩

/-- The place after some characters. -/
def advance (p : Position) (cs : List Char) : Position := cs.foldl after p

@[simp] theorem advance_nil (p : Position) : p.advance [] = p := rfl

@[simp] theorem advance_cons (p : Position) (c : Char) (cs : List Char) :
    p.advance (c :: cs) = (p.after c).advance cs := rfl

theorem advance_append (p : Position) (cs ds : List Char) :
    p.advance (cs ++ ds) = (p.advance cs).advance ds := List.foldl_append

end Position

/-- What a token is. -/
inductive TokenKind where
  | identifier (name : String)
  | integer (n : Int64)
  | text (value : String)
  /-- The two dashes that open and close a section. -/
  | marker
  | openBrace
  | closeBrace
  | colon
  | dot
  | arrow
  | equals
deriving DecidableEq

/-- How a message speaks of a token. -/
def TokenKind.describe : TokenKind → String
  | .identifier name => s!"identifier '{name}'"
  | .integer n => s!"integer {n.toInt}"
  | .text _ => "string literal"
  | .marker => "'--'"
  | .openBrace => "'\x7b'"
  | .closeBrace => "'\x7d'"
  | .colon => "':'"
  | .dot => "'.'"
  | .arrow => "'->'"
  | .equals => "'='"

/-- A token and where it was read. -/
structure Token where
  kind : TokenKind
  position : Position
  /-- The token as errors show it: quotes around the value of a text, the source otherwise. -/
  text : String
deriving DecidableEq

/-- The place behind the text of a token. -/
def Token.endPosition (t : Token) : Position :=
  ⟨t.position.line, t.position.column + t.text.length⟩

/-- Why a text is not in its format: what is wrong, where, and at which fragment. -/
structure ParseError where
  language : Language
  detail : String
  position : Position
  fragment : String
deriving DecidableEq

/-- The whole message of a parse error. -/
def ParseError.message (e : ParseError) : String :=
  s!"{e.language.name} parse error at line {e.position.line}, column {e.position.column} " ++
    s!"near '{e.fragment}': {e.detail}"

end Dataflow
