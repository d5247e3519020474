import Dataflow.Decimal.Shortest
import Dataflow.Json.Basic
import Dataflow.Text.Quoted
/-!
# The text of a JSON value

`Json.compress` writes a value on one line without blanks, `Json.pretty` over several
lines with an indentation of two blanks. Characters beyond ASCII stand as they are;
within texts only the quote, the backslash and the control characters are escaped.
Floats are written with the fewest digits that read back to them.

The program leaves writing to a library, and what that documents is followed here: the two-letter
escapes for backspace, form feed, line feed, return and tab and `\u00xx` in lower case for the other
control characters, `null` for a float that is no number, empty containers on one line, and floats by
position from `1e-5` to below `1e16` and with an exponent beyond.
-/

namespace Dataflow

namespace Binary64

/-- The digits of a decimal with a point: positional when the point falls less than
five places before the digits or at most sixteen after their start, with an exponent otherwise. -/
def Decimal.layout (d : Decimal) : List Char :=
  let digits := Nat.toDigits 10 d.digits
  let point : Int := digits.length + d.exponent
  if 0 ≤ d.exponent ∧ point ≤ 16 then
    digits ++ List.replicate d.exponent.toNat '0' ++ ['.', '0']
  else if 0 < point ∧ point ≤ 16 then
    digits.take point.toNat ++ ['.'] ++ digits.drop point.toNat
  else if -5 < point ∧ point ≤ 0 then
    ['0', '.'] ++ List.replicate (-point).toNat '0' ++ digits
  else
    let exponent := (toString (point - 1)).toList
    match digits with
    | [d] => d :: 'e' :: exponent
    | d :: rest => d :: '.' :: rest ++ 'e' :: exponent
    | [] => []

/-- The text of a finite number; it always has a point or an exponent. -/
def text (x : Binary64) : List Char :=
  (if x.isNegative then ['-'] else []) ++
    if x.significand = 0 then ['0', '.', '0'] else x.shortest.layout

end Binary64

namespace Json

/-- Two hexadecimal digits of a number below 256. -/
def hexPair (n : Nat) : List Char := [Nat.digitChar (n / 16), Nat.digitChar (n % 16)]

/-- How a character is written within a text. -/
def escapedChar (c : Char) : List Char :=
  match c with
  | '"' => ['\\', '"']
  | '\\' => ['\\', '\\']
  | '\n' => ['\\', 'n']
  | '\r' => ['\\', 'r']
  | '\t' => ['\\', 't']
  | '\x08' => ['\\', 'b']
  | '\x0c' => ['\\', 'f']
  | c => if c.toNat < 32 then ['\\', 'u', '0', '0'] ++ hexPair c.toNat else [c]

/-- A text between quotes. -/
def quotedChars (s : String) : List Char := '"' :: s.toList.flatMap escapedChar ++ ['"']

/-- The decimal digits of a whole number, with its sign. -/
def wholeChars (n : WholeNumber) : List Char :=
  if n.val < 0 then '-' :: Nat.toDigits 10 n.val.natAbs else Nat.toDigits 10 n.val.natAbs

/-- The text of a value without elements or members of its own. -/
def scalarChars : Json → List Char
  | .bool true => ['t', 'r', 'u', 'e']
  | .bool false => ['f', 'a', 'l', 's', 'e']
  | .whole n => wholeChars n
  | .float x => if x.isFinite then x.text else ['n', 'u', 'l', 'l']
  | .str s => quotedChars s
  | _ => ['n', 'u', 'l', 'l']

mutual

/-- The characters of the compact text. -/
def chars : Json → List Char
  | .arr items => '[' :: itemChars items ++ [']']
  | .obj members => '{' :: memberChars members ++ ['}']
  | v => scalarChars v

/-- The elements, separated by commas. -/
def itemChars : List Json → List Char
  | [] => []
  | [v] => chars v
  | v :: rest => chars v ++ ',' :: itemChars rest

/-- The members, separated by commas. -/
def memberChars : List (String × Json) → List Char
  | [] => []
  | [(k, v)] => quotedChars k ++ ':' :: chars v
  | (k, v) :: rest => quotedChars k ++ ':' :: chars v ++ ',' :: memberChars rest

end

/-- The text of a value on one line, without blanks. -/
def compress (j : Json) : String := String.ofList j.chars

/-- A new line with two blanks per level. -/
def newLine (level : Nat) : List Char := '\n' :: List.replicate (2 * level) ' '

mutual

/-- The characters of the text over several lines, inside `level` containers. -/
def prettyChars (level : Nat) : Json → List Char
  | .arr [] => ['[', ']']
  | .arr items => '[' :: prettyItems (level + 1) items ++ newLine level ++ [']']
  | .obj [] => ['{', '}']
  | .obj members => '{' :: prettyMembers (level + 1) members ++ newLine level ++ ['}']
  | v => scalarChars v

/-- The elements, each on a line of its own. -/
def prettyItems (level : Nat) : List Json → List Char
  | [] => []
  | [v] => newLine level ++ prettyChars level v
  | v :: rest => newLine level ++ prettyChars level v ++ ',' :: prettyItems level rest

/-- The members, each on a line of its own. -/
def prettyMembers (level : Nat) : List (String × Json) → List Char
  | [] => []
  | [(k, v)] => newLine level ++ quotedChars k ++ ':' :: ' ' :: prettyChars level v
  | (k, v) :: rest =>
    newLine level ++ quotedChars k ++ ':' :: ' ' :: prettyChars level v ++ ',' ::
      prettyMembers level rest

end

/-- The text of a value over several lines, two blanks per level. -/
def pretty (j : Json) : String := String.ofList (prettyChars 0 j)

end Json

end Dataflow
