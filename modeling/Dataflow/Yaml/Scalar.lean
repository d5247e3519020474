import Dataflow.Yaml.Token
/-!
# YAML scalars

Reading the five ways to write a scalar. Plain and quoted scalars may go over several lines;
what stands between two lines is folded: one break becomes a space, and each further one a line
feed. Block scalars keep the text of their lines from the indentation of the first on.
-/

namespace Dataflow.Yaml

open Dataflow.Yaml.Cursor

/-! ## Folding -/

/-- What stands between two runs of characters of a scalar. -/
structure Gap where
  /-- The blanks before the first line break. -/
  blanks : List Char := []
  /-- Whether there is a line break. -/
  broken : Bool := false
  /-- The first line break, unless it is escaped. -/
  firstBreak : List Char := []
  /-- The line breaks after the first. -/
  moreBreaks : List Char := []

namespace Gap

/-- Whether there is nothing. -/
def isEmpty (g : Gap) : Bool := g.blanks.isEmpty && !g.broken

/-- One more blank. After a line break it is indentation and does not count. -/
def blank (g : Gap) (c : Char) : Gap := if g.broken then g else { g with blanks := g.blanks ++ [c] }

/-- One more line break. -/
def lineBreak (g : Gap) (c : Char) : Gap :=
  if g.broken then { g with moreBreaks := g.moreBreaks ++ [breakText c] }
  else ⟨[], true, [breakText c], []⟩

/-- What the gap counts for in the scalar. -/
def text (g : Gap) : List Char :=
  if !g.broken then g.blanks
  else if g.firstBreak = ['\n'] then (if g.moreBreaks.isEmpty then [' '] else g.moreBreaks)
  else g.firstBreak ++ g.moreBreaks

end Gap

/-- Reads the gap at a place after `g`. Where a limit is given, a tab may not be in its indentation. -/
def readGap (limit? : Option Nat) (g : Gap) (c : Cursor) : Except Fault (Gap × Cursor) :=
  match _h : c.rest with
  | [] => .ok (g, c)
  | x :: _ =>
    if isBlank x then
      if g.broken && x = '\t' && limit?.any (c.column < ·) then c.fail .tabInIndentation
      else readGap limit? (g.blank x) (c.forward 1)
    else if isBreak x then readGap limit? (g.lineBreak x) c.nextLine
    else .ok (g, c)
termination_by c.rest.length
decreasing_by
  · exact length_forward_lt (by omega) (by simp [atEnd, _h])
  · exact length_nextLine_lt (by simp [atEnd, _h])

/-! ## Plain scalars -/

/-- The characters of a plain scalar up to the next separator or indicator. Within a flow
collection a colon may not stand before an indicator. -/
def plainRun (inFlow : Bool) : List Char → Option (List Char)
  | [] => some []
  | ':' :: rest =>
    if inFlow && rest.head?.any (fun x => isFlowIndicator x || x = '?') then none
    else if rest.head?.all isSpace then some []
    else (plainRun inFlow rest).map (':' :: ·)
  | c :: rest =>
    if isSpace c || (inFlow && isFlowIndicator c) then some []
    else (plainRun inFlow rest).map (c :: ·)

/-- A plain scalar, the place after it, and whether the gap behind it ends its line. -/
structure PlainScalar where
  text : List Char
  after : Cursor
  lineEnded : Bool

/-- Reads on a plain scalar. In `taken` is what is read, `gap` stands between that and the place.
Further lines are indented by `indent` at least, except in a flow collection. -/
def readPlain (inFlow : Bool) (indent : Nat) (taken : List Char) (gap : Gap) (c : Cursor) :
    Except Fault PlainScalar :=
  if c.atDocumentMarker || c.sees '#' then .ok ⟨taken, c, gap.broken⟩
  else
    match plainRun inFlow c.rest with
    | none => c.fail .ambiguousColon
    | some [] => .ok ⟨taken, c, gap.broken⟩
    | some (x :: run) =>
      let taken := taken ++ gap.text ++ x :: run
      let c' := c.forward (run.length + 1)
      match readGap (some indent) {} c' with
      | .error f => .error f
      | .ok (gap, next) =>
        if gap.isEmpty || (!inFlow && next.column < indent) then .ok ⟨taken, next, gap.broken⟩
        else if next.rest.length < c.rest.length then readPlain inFlow indent taken gap next
        else .ok ⟨taken, next, gap.broken⟩
termination_by c.rest.length

/-! ## Quoted scalars -/

/-- The character that a one-letter escape stands for. -/
def escaped? : Char → Option Char
  | '0' => some '\x00'
  | 'a' => some '\x07'
  | 'b' => some '\x08'
  | 't' | '\t' => some '\t'
  | 'n' => some '\n'
  | 'v' => some '\x0b'
  | 'f' => some '\x0c'
  | 'r' => some '\r'
  | 'e' => some '\x1b'
  | ' ' => some ' '
  | '"' => some '"'
  | '/' => some '/'
  | '\\' => some '\\'
  | 'N' => some '\x85'
  | '_' => some '\xa0'
  | 'L' => some '\u2028'
  | 'P' => some '\u2029'
  | _ => none

/-- How many hexadecimal digits follow a letter of an escape. -/
def hexWidth? : Char → Option Nat
  | 'x' => some 2
  | 'u' => some 4
  | 'U' => some 8
  | _ => none

/-- The number that hexadecimal digits stand for. -/
def hexNumber? (digits : List Char) : Option Nat :=
  digits.foldlM (fun n c => (Text.hexValue? c).map (n * 16 + ·)) 0

/-- The character that an escape of some hexadecimal digits stands for. -/
def hexChar? (width : Nat) (digits : List Char) : Option Char :=
  if digits.length < width then none
  else
    (hexNumber? digits).bind fun n => if h : n.isValidChar then some (Char.ofNatAux n h) else none

/-- What stands at a place of a quoted scalar. -/
inductive QuotedPart where
  /-- Text that takes one character and some more. -/
  | text (value : Char) (more : Nat)
  /-- A line break that counts for nothing. -/
  | escapedBreak
  | closingQuote
  | gap
  | badEscape

/-- The escape that starts with a backslash before these characters. -/
def escapeAt : List Char → QuotedPart
  | [] => .badEscape
  | x :: rest =>
    if isBreak x then .escapedBreak
    else
      match escaped? x, hexWidth? x with
      | some v, _ => .text v 1
      | none, some width =>
        match hexChar? width (rest.take width) with
        | some v => .text v (width + 1)
        | none => .badEscape
      | none, none => .badEscape

/-- What stands at the start of some characters of a quoted scalar. -/
def quotedPart (quote : Char) : List Char → QuotedPart
  | [] => .gap
  | x :: rest =>
    if isSpace x then .gap
    else if x = quote then
      if quote = '\'' && rest.head? = some quote then .text quote 1 else .closingQuote
    else if quote = '"' && x = '\\' then escapeAt rest
    else .text x 0

/-- Reads on a quoted scalar up to its closing quote; in `taken` is what is read, in reverse. A
document marker may not start a line of it. -/
def readQuoted (quote : Char) (taken : List Char) (c : Cursor) : Except Fault (List Char × Cursor) :=
  if _hc : c.atEnd then c.fail .unclosedQuote
  else if c.atDocumentMarker then c.fail .markerInQuote
  else
    match quotedPart quote c.rest with
    | .badEscape => c.fail .badEscape
    | .closingQuote => .ok (taken.reverse, c.forward 1)
    | .text value more => readQuoted quote (value :: taken) (c.forward (more + 1))
    | .escapedBreak =>
      match readGap none ⟨[], true, [], []⟩ (c.forward 1).nextLine with
      | .error f => .error f
      | .ok (gap, next) =>
        if next.rest.length < c.rest.length then readQuoted quote (gap.text.reverse ++ taken) next
        else c.fail .unclosedQuote
    | .gap =>
      match readGap none {} c with
      | .error f => .error f
      | .ok (gap, next) =>
        if next.rest.length < c.rest.length then readQuoted quote (gap.text.reverse ++ taken) next
        else c.fail .unclosedQuote
termination_by c.rest.length
decreasing_by
  · exact length_forward_lt (by omega) (by simpa using _hc)
  · assumption
  · assumption

/-! ## Block scalars -/

/-- What becomes of the line breaks at the end of a block scalar. -/
inductive Chomping where
  | strip
  | clip
  | keep
deriving DecidableEq

/-- The header of a block scalar: what it says on the last line breaks, and on the indentation. -/
structure BlockHeader where
  chomping : Chomping := .clip
  indent? : Option Nat := none

/-- The indicator of a chomping. -/
def chomping? : Char → Option Chomping
  | '-' => some .strip
  | '+' => some .keep
  | _ => none

/-- The indentation that a digit stands for, which is one at least. -/
def indentation? (c : Char) : Option Nat :=
  if '1' ≤ c ∧ c ≤ '9' then some (c.toNat - '0'.toNat) else none

/-- Reads the two indicators of a header, in any order, and how many characters they take. -/
def readBlockHeader : List Char → BlockHeader × Nat
  | [] => ({}, 0)
  | x :: rest =>
    match chomping? x, indentation? x with
    | some chomping, _ =>
      match rest.head?.bind indentation? with
      | some n => (⟨chomping, some n⟩, 2)
      | none => (⟨chomping, none⟩, 1)
    | none, some n =>
      match rest.head?.bind chomping? with
      | some chomping => (⟨chomping, some n⟩, 2)
      | none => (⟨.clip, some n⟩, 1)
    | none, none => ({}, 0)

/-- The empty lines at a place of a block scalar. -/
structure EmptyLines where
  breaks : List Char
  /-- The greatest column that was reached by spaces. -/
  reached : Nat
  after : Cursor

/-- Reads empty lines and the indentation of the line behind them, up to the column `indent?`. -/
def readEmptyLines (indent? : Option Nat) (breaks : List Char) (reached : Nat) (c : Cursor) :
    Except Fault EmptyLines :=
  match _h : c.rest with
  | [] => .ok ⟨breaks, max reached c.column, c⟩
  | x :: _ =>
    let indenting := indent?.all (c.column < ·)
    if indenting && x = ' ' then readEmptyLines indent? breaks reached (c.forward 1)
    else if indenting && x = '\t' then c.fail .tabInIndentation
    else if isBreak x then
      readEmptyLines indent? (breaks ++ [breakText x]) (max reached c.column) c.nextLine
    else .ok ⟨breaks, max reached c.column, c⟩
termination_by c.rest.length
decreasing_by
  · exact length_forward_lt (by omega) (by simp [atEnd, _h])
  · exact length_nextLine_lt (by simp [atEnd, _h])

/-- The part of a block scalar that is read. -/
structure BlockText where
  text : List Char := []
  /-- The break of the last line. -/
  lineBreak : List Char := []
  /-- The breaks of the empty lines behind it. -/
  emptyLines : List Char := []
  /-- Whether the last line starts with a blank. -/
  blankStart : Bool := false

/-- Adds a line. In a folded scalar the break before it becomes a space, or nothing if there
are empty lines, unless one of the two lines starts with a blank. -/
def BlockText.addLine (b : BlockText) (folded : Bool) (line : List Char) : BlockText :=
  let blankStart := line.head?.any isBlank
  let joint :=
    if folded && b.lineBreak = ['\n'] && !b.blankStart && !blankStart then
      if b.emptyLines.isEmpty then [' '] else b.emptyLines
    else b.lineBreak ++ b.emptyLines
  ⟨b.text ++ joint ++ line, [], [], blankStart⟩

/-- The text of a block scalar that is read to its end. -/
def BlockText.finish (b : BlockText) : Chomping → List Char
  | .strip => b.text
  | .clip => b.text ++ b.lineBreak
  | .keep => b.text ++ b.lineBreak ++ b.emptyLines

/-- The break at a place, if there is one, and the place after it. -/
def readBreak (c : Cursor) : List Char × Cursor :=
  match c.peek? 0 with
  | some x => ([breakText x], c.nextLine)
  | none => ([], c)

/-- Reads the lines of a block scalar that are indented by `indent`. -/
def readBlockLines (folded : Bool) (indent : Nat) (b : BlockText) (c : Cursor) :
    Except Fault (BlockText × Cursor) :=
  if c.column ≠ indent ∨ c.atEnd then .ok (b, c)
  else
    let (line, lineEnd) := c.span (!isBreak ·)
    let (lineBreak, next) := readBreak lineEnd
    match readEmptyLines (some indent) [] 0 next with
    | .error f => .error f
    | .ok empty =>
      let b := { b.addLine folded line with lineBreak, emptyLines := empty.breaks }
      if empty.after.rest.length < c.rest.length then readBlockLines folded indent b empty.after
      else .ok (b, empty.after)
termination_by c.rest.length

/-- Reads a block scalar after its first indicator. Its lines are indented by more than `parent`. -/
def readBlock (folded : Bool) (parent : Int) (c : Cursor) : Except Fault (List Char × Cursor) := do
  let (header, size) := readBlockHeader c.rest
  let some c := (c.forward size).skipToLineEnd? | c.fail .badBlockHeader
  let (_, c) := readBreak c
  let given? := header.indent?.map fun n => parent.toNat + n
  let empty ← readEmptyLines given? [] 0 c
  let indent := given?.getD (max empty.reached (max (parent + 1) 1).toNat)
  let (b, c) ← readBlockLines folded indent ⟨[], [], empty.breaks, false⟩ empty.after
  return (b.finish header.chomping, c)

end Dataflow.Yaml
