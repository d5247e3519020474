import Dataflow.Text.CharClass
/-!
# Places in a YAML text

The character classes of the format, and a cursor over the characters that are still to be
read. A cursor knows its line and column, both counted from zero; the column is what
indentation is measured in.
-/

namespace Dataflow.Yaml

/-! ## Characters -/

/-- The characters a document may hold. -/
def isAllowed (c : Char) : Bool :=
  c = '\t' || c = '\n' || c = '\r' || (' ' ≤ c && c ≤ '~') || c = '\x85' ||
    ('\xa0' ≤ c && c ≠ '\ufffe' && c ≠ '\uffff')

/-- The characters that end a line. -/
def isBreak (c : Char) : Bool :=
  c = '\n' || c = '\r' || c = '\x85' || c = '\u2028' || c = '\u2029'

/-- The characters that separate within a line. -/
def isBlank (c : Char) : Bool := c = ' ' || c = '\t'

/-- The characters that separate. -/
def isSpace (c : Char) : Bool := isBlank c || isBreak c

/-- The characters of names. -/
def isWord (c : Char) : Bool := c.isAlphanum || c = '_' || c = '-'

/-- The brackets and the comma, which structure flow collections. -/
def isFlowIndicator (c : Char) : Bool :=
  c = ',' || c = '[' || c = ']' || c = '{' || c = '}'

/-- What a line break stands for in a text: a line feed, but the two separators of Unicode stay. -/
def breakText (c : Char) : Char := if c = '\u2028' || c = '\u2029' then c else '\n'

/-! ## Cursors -/

/-- A place in a text. -/
structure Cursor where
  rest : List Char
  /-- How many characters stand before the place. -/
  index : Nat := 0
  line : Nat := 0
  column : Nat := 0

namespace Cursor

/-- Whether no characters are left. -/
def atEnd (c : Cursor) : Bool := c.rest.isEmpty

/-- The character `n` places ahead. -/
def peek? (c : Cursor) (n : Nat) : Option Char := c.rest[n]?

/-- Whether the character `n` places ahead satisfies `p`. -/
def looksAt (c : Cursor) (n : Nat) (p : Char → Bool) : Bool := (c.peek? n).any p

/-- Whether the next character is `x`. -/
def sees (c : Cursor) (x : Char) : Bool := c.looksAt 0 (· = x)

/-- Whether a separator or the end stands `n` places ahead. -/
def separated (c : Cursor) (n : Nat) : Bool := (c.peek? n).all isSpace

/-- Whether the line ends here. -/
def atLineEnd (c : Cursor) : Bool := (c.peek? 0).all isBreak

/-- Goes over characters that are no line breaks. -/
def forward (c : Cursor) (n : Nat) : Cursor :=
  { c with rest := c.rest.drop n, index := c.index + n, column := c.column + n }

/-- Goes over a line break. -/
def nextLine (c : Cursor) : Cursor :=
  let size := if c.sees '\r' && c.looksAt 1 (· = '\n') then 2 else 1
  ⟨c.rest.drop size, c.index + size, c.line + 1, 0⟩

/-- The characters that satisfy `p` up to the first that does not, and the place after them. -/
def span (c : Cursor) (p : Char → Bool) : List Char × Cursor :=
  let run := c.rest.takeWhile p
  (run, c.forward run.length)

/-- Goes over the characters that satisfy `p`. -/
def skip (c : Cursor) (p : Char → Bool) : Cursor := (c.span p).2

/-- Goes over blanks and a comment to the end of the line, if nothing else is on it. -/
def skipToLineEnd? (c : Cursor) : Option Cursor :=
  let c := c.skip isBlank
  let c := if c.sees '#' then c.skip (!isBreak ·) else c
  if c.atLineEnd then some c else none

/-- Whether a line starts here with one of the two document markers. -/
def atDocumentMarker (c : Cursor) : Bool :=
  c.column = 0 && (c.rest.take 3 = ['-', '-', '-'] || c.rest.take 3 = ['.', '.', '.']) &&
    c.separated 3

theorem length_forward (c : Cursor) (n : Nat) :
    (c.forward n).rest.length = c.rest.length - n := List.length_drop

theorem length_forward_lt {c : Cursor} {n : Nat} (hn : 0 < n) (hc : c.atEnd = false) :
    (c.forward n).rest.length < c.rest.length := by
  have : c.rest ≠ [] := by simpa [atEnd] using hc
  have := List.length_pos_iff.2 this
  rw [length_forward]
  omega

theorem length_skip_le (c : Cursor) (p : Char → Bool) :
    (c.skip p).rest.length ≤ c.rest.length := by
  show (c.forward _).rest.length ≤ _
  rw [length_forward]
  omega

theorem atEnd_of_looksAt {c : Cursor} {p : Char → Bool} (h : c.looksAt 0 p = true) :
    c.atEnd = false := by
  cases hc : c.rest <;> simp [looksAt, peek?, atEnd, hc] at h ⊢

theorem length_nextLine_lt {c : Cursor} (hc : c.atEnd = false) :
    c.nextLine.rest.length < c.rest.length := by
  have : c.rest ≠ [] := by simpa [atEnd] using hc
  have := List.length_pos_iff.2 this
  simp only [nextLine, List.length_drop]
  split <;> omega

end Cursor

end Dataflow.Yaml
