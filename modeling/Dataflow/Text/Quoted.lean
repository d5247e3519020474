import Dataflow.Text.CharClass
/-!
# Quoted texts

The diagnostic form of a text: between double quotes, with everything escaped
that has no visible form of its own. It is what the diagnostic lines of a
registry and an engine show names in.
-/

namespace Dataflow.Text

/-- Lower-case hexadecimal digits of `n`, without leading zeros. -/
def hexDigits (n : Nat) : List Char := Nat.toDigits 16 n

/-- How one character is written between the quotes. -/
def quotedChar (c : Char) : List Char :=
  match c with
  | '\x00' => ['\\', '0']
  | '\t' => ['\\', 't']
  | '\n' => ['\\', 'n']
  | '\r' => ['\\', 'r']
  | '"' => ['\\', '"']
  | '\\' => ['\\', '\\']
  | c =>
    if isPrintable c then [c]
    else ['\\', 'u', '{'] ++ hexDigits c.toNat ++ ['}']

/-- The text between double quotes, escaped. -/
def quoted (s : String) : String :=
  String.ofList ('"' :: s.toList.flatMap quotedChar ++ ['"'])

/-- A bracketed list of quoted texts. -/
def quotedList (items : List String) : String :=
  "[" ++ String.intercalate ", " (items.map quoted) ++ "]"

end Dataflow.Text
