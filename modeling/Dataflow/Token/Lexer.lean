import Dataflow.Text.CharClass
import Dataflow.Token.Basic
/-!
# From text to tokens

`tokenize` splits a text into tokens and drops what stands between them: blanks, and
comments from `//` to the end of the line. One lexeme is read at a time (`Lexeme.read`);
it either belongs to a gap or is a token, and it is as long as it can be.
-/

namespace Dataflow

/-- Why no lexeme can be read at a place. -/
structure Refusal where
  detail : String
  /-- The characters between the start of the lexeme and the place to report. -/
  passed : List Char
  fragment : String

/-- The refusal as an error of a text whose lexeme starts at `p`. -/
def Refusal.toError (r : Refusal) (language : Language) (p : Position) : ParseError :=
  ⟨language, r.detail, p.advance r.passed, r.fragment⟩

/-- One lexeme: the characters it takes after its first one, and what it means. -/
structure Lexeme where
  more : List Char
  /-- The token and the text to show for it; nothing for a gap. -/
  token? : Option (TokenKind × String)

namespace Lexeme

/-- A lexeme that stands between tokens. -/
def gap (more : List Char) : Lexeme := ⟨more, none⟩

/-- A lexeme that is shown as it is written. -/
def spelled (first : Char) (more : List Char) (kind : TokenKind) : Lexeme :=
  ⟨more, some (kind, String.ofList (first :: more))⟩

/-- The number of a run of decimal digits. -/
def magnitude (digits : List Char) : Nat :=
  digits.foldl (fun n c => n * 10 + Text.digitValue c) 0

/-- Whether a number fits a signed word. -/
def fitsWord (n : Int) : Bool := -0x8000000000000000 ≤ n && n < 0x8000000000000000

/-- An integer literal: its first character, the digits after it, and its number. -/
def integer (first : Char) (more : List Char) (n : Int) : Except Refusal Lexeme :=
  if fitsWord n then .ok (spelled first more (.integer (Int64.ofInt n)))
  else .error ⟨"integer literal out of range", [], String.ofList (first :: more)⟩

/-- The character that an escape stands for. -/
def escaped? : Char → Option Char
  | 'n' => some '\n'
  | 't' => some '\t'
  | '"' => some '"'
  | '\\' => some '\\'
  | _ => none

/-- A text that has no closing quote before the end of the line or of the input. -/
def unterminated (value : List Char) : Refusal :=
  ⟨"unterminated string literal", [], String.ofList ('"' :: value.reverse)⟩

/-- Reads a text after its opening quote up to its closing one. The characters read so far
are in `taken`, those they stand for in `value`, both in reverse. -/
def textBody (value taken : List Char) : List Char → Except Refusal Lexeme
  | [] => .error (unterminated value)
  | '"' :: _ =>
    let value := String.ofList value.reverse
    .ok ⟨(('"' : Char) :: taken).reverse, some (.text value, "\"" ++ value ++ "\"")⟩
  | '\\' :: [] => .error (unterminated value)
  | '\\' :: c :: rest =>
    match escaped? c with
    | some v => textBody (v :: value) (c :: '\\' :: taken) rest
    | none =>
      .error ⟨"unknown escape '\\" ++ c.toString ++ "'",
        '"' :: (c :: '\\' :: taken).reverse, "\\" ++ c.toString⟩
  | c :: rest =>
    if c = '\n' then .error (unterminated value) else textBody (c :: value) (c :: taken) rest

/-- The tokens of a single character. -/
def punctuation? : Char → Option TokenKind
  | '{' => some .openBrace
  | '}' => some .closeBrace
  | ':' => some .colon
  | '.' => some .dot
  | '=' => some .equals
  | _ => none

/-- Reads the lexeme that starts with `c` and goes on in `rest`. -/
def read (c : Char) (rest : List Char) : Except Refusal Lexeme :=
  if Text.isBlank c then .ok (gap [])
  else if c = '/' then
    match rest with
    | '/' :: _ => .ok (gap (rest.takeWhile (· ≠ '\n')))
    | _ => .error ⟨"expected '//' comment", [], "/"⟩
  else if let some kind := punctuation? c then .ok (spelled c [] kind)
  else if c = '-' then
    match rest with
    | '-' :: _ => .ok (spelled c ['-'] .marker)
    | '>' :: _ => .ok (spelled c ['>'] .arrow)
    | _ =>
      match rest.takeWhile Text.isDigit with
      | [] => .error ⟨"unexpected '-'", [], "-"⟩
      | digits => integer c digits (-(magnitude digits : Int))
  else if c = '"' then textBody [] [] rest
  else if Text.isDigit c then
    let digits := rest.takeWhile Text.isDigit
    integer c digits (magnitude (c :: digits))
  else if Text.startsIdentifier c then
    let more := rest.takeWhile Text.extendsIdentifier
    .ok (spelled c more (.identifier (String.ofList (c :: more))))
  else .error ⟨"unexpected character '" ++ c.toString ++ "'", [], c.toString⟩

/-- The tokens that the lexeme adds when it starts at `p`. -/
def tokens (l : Lexeme) (p : Position) : List Token :=
  match l.token? with
  | some (kind, text) => [⟨kind, p, text⟩]
  | none => []

end Lexeme

/-- The tokens of the remaining characters, the first of which stands at `p`. -/
def tokensFrom (language : Language) (p : Position) : List Char → Except ParseError (List Token)
  | [] => .ok []
  | c :: rest =>
    match Lexeme.read c rest with
    | .error refusal => .error (refusal.toError language p)
    | .ok l =>
      match tokensFrom language (p.advance (c :: l.more)) (rest.drop l.more.length) with
      | .error e => .error e
      | .ok later => .ok (l.tokens p ++ later)
termination_by cs => cs.length
decreasing_by simp only [List.length_drop, List.length_cons]; omega

/-- Splits a text into its tokens. -/
def tokenize (language : Language) (source : String) : Except ParseError (List Token) :=
  tokensFrom language .start source.toList

end Dataflow
