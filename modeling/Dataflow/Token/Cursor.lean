import Dataflow.Token.Lexer
/-!
# Reading tokens one by one

A `Cursor` stands between the tokens that are read and those that are not. A `Parser` moves
it; when it fails, the cursor stays where the failure was found. The expectations here are
those that both file formats are written with: each consumes what it expects or fails with a
message that names what stands there instead.
-/

namespace Dataflow

/-- A place in a list of tokens. -/
structure Cursor where
  language : Language
  /-- The token read last. -/
  last? : Option Token
  /-- The tokens not read yet. -/
  rest : List Token

namespace Cursor

/-- The cursor before the first token of a text. -/
def ofSource (language : Language) (source : String) : Except ParseError Cursor :=
  (tokenize language source).map fun tokens => ⟨language, none, tokens⟩

/-- The next token. -/
def peek? (c : Cursor) : Option Token := c.rest.head?

/-- Whether all tokens are read. -/
def atEnd (c : Cursor) : Bool := c.rest.isEmpty

/-- The cursor behind `token`, which is followed by `rest`. -/
def past (c : Cursor) (token : Token) (rest : List Token) : Cursor :=
  { c with last? := some token, rest }

/-- An error at a given token. -/
def errorAt (c : Cursor) (token : Token) (detail : String) : ParseError :=
  ⟨c.language, detail, token.position, token.text⟩

/-- The end of the input: behind the last token, or at the start when there is none. -/
def endPosition (c : Cursor) : Position :=
  match c.last? with
  | some token => token.endPosition
  | none => .start

/-- An error that says what stands at the cursor instead of what was expected. -/
def unexpected (c : Cursor) (expectation : String) : ParseError :=
  match c.rest with
  | token :: _ => c.errorAt token s!"{expectation}, found {token.kind.describe}"
  | [] => ⟨c.language, s!"{expectation}, found end of input", c.endPosition, "<end of input>"⟩

end Cursor

/-- A computation that reads tokens; a failure leaves the cursor where it was found. -/
abbrev Parser (α : Type) := EStateM ParseError Cursor α

namespace Parser

variable {α σ : Type}

/-- Fails at the next token. -/
def unexpected (expectation : String) : Parser α := do
  throw ((← get).unexpected expectation)

/-- Fails at a given token. -/
def failAt (token : Token) (detail : String) : Parser α := do
  throw ((← get).errorAt token detail)

/-- Consumes the next token, if there is one. -/
def advance : Parser (Option Token) := fun c =>
  match c.rest with
  | token :: rest => .ok (some token) (c.past token rest)
  | [] => .ok none c

/-- Consumes the next token when it is of this kind. -/
def eat (kind : TokenKind) : Parser Bool := fun c =>
  match c.rest with
  | token :: rest => if token.kind = kind then .ok true (c.past token rest) else .ok false c
  | [] => .ok false c

/-- Consumes a token of this kind or fails. -/
def expect (kind : TokenKind) (context : String) : Parser Token := fun c =>
  let failure := c.unexpected s!"expected {kind.describe} {context}"
  match c.rest with
  | token :: rest => if token.kind = kind then .ok token (c.past token rest) else .error failure c
  | [] => .error failure c

/-- Consumes an identifier and gives it with its token. -/
def identifierToken (context : String) : Parser (String × Token) := fun c =>
  let failure := c.unexpected s!"expected identifier {context}"
  match c.rest with
  | token :: rest =>
    match token.kind with
    | .identifier name => .ok (name, token) (c.past token rest)
    | _ => .error failure c
  | [] => .error failure c

/-- Consumes an identifier. -/
def identifier (context : String) : Parser String := do
  return (← identifierToken context).1

/-- Consumes a type name: `Name`, or `plugin.Name`. -/
def typeName (context : String) : Parser String := do
  let first ← identifier context
  if ← eat .dot then
    let second ← identifier context
    return s!"{first}.{second}"
  else
    return first

/-- Consumes the next token when it is an identifier on the given line. -/
def identifierOnLine? (line : Nat) : Parser (Option String) := fun c =>
  match c.rest with
  | token :: rest =>
    match token.kind with
    | .identifier name =>
      if token.position.line = line then .ok (some name) (c.past token rest) else .ok none c
    | _ => .ok none c
  | [] => .ok none c

/-- Whether the next token is an identifier. -/
def identifierIsNext : Parser Bool := fun c =>
  match c.rest with
  | token :: _ =>
    match token.kind with
    | .identifier _ => .ok true c
    | _ => .ok false c
  | [] => .ok false c

/-- A bound for loops whose every round consumes a token or fails. -/
def rounds : Parser Nat := do
  return (← get).rest.length + 1

/-- At most `fuel` rounds of `step`, until the closing brace is consumed. -/
def untilBraceWithin (step : σ → Parser σ) : Nat → σ → Parser σ
  | 0, s => pure s
  | fuel + 1, s => do
    if ← eat .closeBrace then
      return s
    else
      untilBraceWithin step fuel (← step s)

/-- Repeats `step`, which consumes tokens, up to and including the closing brace. -/
def untilBrace (step : σ → Parser σ) (init : σ) : Parser σ := do
  untilBraceWithin step (← rounds) init

/-- At most `fuel` rounds of `step`, while an identifier is next. -/
def whileIdentifierWithin (step : σ → Parser σ) : Nat → σ → Parser σ
  | 0, s => pure s
  | fuel + 1, s => do
    if ← identifierIsNext then
      whileIdentifierWithin step fuel (← step s)
    else
      return s

/-- Repeats `step`, which consumes tokens, while an identifier is next. -/
def whileIdentifier (step : σ → Parser σ) (init : σ) : Parser σ := do
  whileIdentifierWithin step (← rounds) init

/-- At most `fuel` sections; `seen` are the names of those before. -/
def sectionsWithin (body : String → Token → σ → Parser σ) :
    Nat → List String → σ → Parser (σ × List String)
  | 0, seen, s => pure (s, seen)
  | fuel + 1, seen, s => do
    if (← get).atEnd then
      return (s, seen)
    else
      let opening ← expect .marker "to open a section"
      let some name ← identifierOnLine? opening.position.line
        | failAt opening "expected section name after '--'"
      if name ∈ seen then
        failAt opening s!"duplicate '{name}' section"
      else
        let s ← body name opening s
        let _ ← expect .marker "to close the section"
        sectionsWithin body fuel (seen ++ [name]) s

/-- Reads the sections of a whole text: a marker, a name on the marker's line, the body of
that name, and a closing marker. No name comes twice. Gives the names too. -/
def sections (body : String → Token → σ → Parser σ) (init : σ) : Parser (σ × List String) := do
  sectionsWithin body (← rounds) [] init

/-- Reads a whole text. -/
def parse (p : Parser α) (language : Language) (source : String) : Except ParseError α :=
  match Cursor.ofSource language source with
  | .error e => .error e
  | .ok cursor =>
    match p cursor with
    | .ok a _ => .ok a
    | .error e _ => .error e

end Parser

end Dataflow
