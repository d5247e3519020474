import Dataflow.Text.CharTable
/-!
# Character classes

The classes of characters that the token grammar and the quoted form of a text
are stated with. Each is a Unicode property, so it holds beyond ASCII too.
-/

namespace Dataflow.Text

/-- Whether `n` lies in one of `ranges`, which are disjoint and in increasing order. -/
def inRanges (n : Nat) : List (Nat × Nat) → Bool
  | [] => false
  | (first, last) :: rest => if n < first then false else n ≤ last || inRanges n rest

/-- White space: the Unicode property White_Space. -/
def isBlank (c : Char) : Bool := inRanges c.toNat CharTable.whiteSpace

/-- Letters: the Unicode property Alphabetic. -/
def isLetter (c : Char) : Bool := inRanges c.toNat CharTable.alphabetic

/-- Characters that stand for numbers: the general categories Nd, Nl and No. -/
def isNumeric (c : Char) : Bool := inRanges c.toNat CharTable.numeric

/-- Characters that a quoted text shows as they are. -/
def isPrintable (c : Char) : Bool := !inRanges c.toNat CharTable.unprintable

/-- An identifier starts with a letter or an underscore. -/
def startsIdentifier (c : Char) : Bool := isLetter c || c == '_'

/-- An identifier goes on with letters, numeric characters and underscores. -/
def extendsIdentifier (c : Char) : Bool := isLetter c || isNumeric c || c == '_'

/-- A decimal digit of the integer grammar: `0` to `9` only. -/
def isDigit (c : Char) : Bool := '0' ≤ c && c ≤ '9'

/-- The value of a decimal digit. -/
def digitValue (c : Char) : Nat := c.toNat - '0'.toNat

/-- The value of a hexadecimal digit of either case. -/
def hexValue? (c : Char) : Option Nat :=
  if isDigit c then some (digitValue c)
  else if 'a' ≤ c && c ≤ 'f' then some (c.toNat - 'a'.toNat + 10)
  else if 'A' ≤ c && c ≤ 'F' then some (c.toNat - 'A'.toNat + 10)
  else none

end Dataflow.Text
