import Dataflow.Yaml.Token
/-!
# YAML tags and directives

A tag is a handle, which stands for the start of the tag, and a suffix. The empty handle marks a
tag that is written in full. A directive declares a handle or the version of the format.
-/

namespace Dataflow.Yaml

/-! ## The characters of tags -/

/-- The characters of a tag besides escaped ones. -/
def isTagCharacter (c : Char) : Bool := isWord c || ";/?:@&=+$.!~*'()".toList.contains c

/-- The byte that a percent sign and two digits stand for. -/
def escapedByte? : List Char → Option UInt8
  | '%' :: a :: b :: _ =>
    match Text.hexValue? a, Text.hexValue? b with
    | some a, some b => some (UInt8.ofNat (a * 16 + b))
    | _, _ => none
  | _ => none

/-- The bytes that `n` escapes in a row stand for. -/
def escapedBytes? : Nat → List Char → Option (List UInt8)
  | 0, _ => some []
  | n + 1, cs =>
    match escapedByte? cs, escapedBytes? n (cs.drop 3) with
    | some b, some bs => some (b :: bs)
    | _, _ => none

/-- How many bytes a character has in UTF-8, by its first byte. -/
def byteCount? (first : UInt8) : Option Nat :=
  if first < 0x80 then some 1
  else if first < 0xc0 then none
  else if first < 0xe0 then some 2
  else if first < 0xf0 then some 3
  else if first < 0xf8 then some 4
  else none

/-- The character that some escapes stand for, and how many there are. -/
def escapedChar? (cs : List Char) : Option (List Char × Nat) := do
  let n ← byteCount? (← escapedByte? cs)
  let text ← String.fromUTF8? (ByteArray.mk (← escapedBytes? n cs).toArray)
  return (text.toList, n)

/-- The text of a tag up to the first character that cannot stand in it, and how many characters
it takes. Where the tag is written in full, commas and square brackets can stand in it. -/
def tagText? (full : Bool) : List Char → Option (List Char × Nat)
  | [] => some ([], 0)
  | c :: rest =>
    if c = '%' then
      match escapedChar? (c :: rest) with
      | none => none
      | some (text, n) =>
        (tagText? full (rest.drop (3 * n - 1))).map fun (more, size) => (text ++ more, size + 3 * n)
    else if isTagCharacter c || (full && (c = ',' || c = '[' || c = ']')) then
      (tagText? full rest).map fun (more, size) => (c :: more, size + 1)
    else some ([], 0)
termination_by cs => cs.length
decreasing_by all_goals simp only [List.length_drop, List.length_cons]; omega

/-- Reads the text of a tag. -/
def readTagText (full : Bool) (c : Cursor) : Except Fault (List Char × Cursor) :=
  match tagText? full c.rest with
  | some (text, size) => .ok (text, c.forward size)
  | none => c.fail .badTag

/-- Reads text of a tag that may not be missing. -/
def readSomeTagText (full : Bool) (c : Cursor) : Except Fault (String × Cursor) := do
  let (text, next) ← readTagText full c
  if text.isEmpty then c.fail .badTag else return (String.ofList text, next)

/-- Reads an exclamation mark, a name and, if it is there, another exclamation mark. -/
def readHandle (c : Cursor) : Except Fault (List Char × Cursor) :=
  if !c.sees '!' then c.fail .badTag
  else
    let (name, c) := (c.forward 1).span isWord
    if c.sees '!' then .ok ('!' :: name ++ ['!'], c.forward 1) else .ok ('!' :: name, c)

/-! ## Tags -/

/-- Whether a handle is closed by a second exclamation mark. -/
def isClosedHandle (handle : List Char) : Bool := 1 < handle.length && handle.getLast? = some '!'

/-- Reads a tag that is written in full, after its opening bracket. -/
def readFullTag (c : Cursor) : Except Fault (Token × Cursor) := do
  let (text, c) ← readSomeTagText true c
  if c.sees '>' then return (.tag "" text, c.forward 1) else c.fail .badTag

/-- Reads a tag with a handle. The exclamation mark alone is a tag in full. -/
def readShortTag (c : Cursor) : Except Fault (Token × Cursor) := do
  let (handle, c) ← readHandle c
  if isClosedHandle handle then
    let (text, c) ← readSomeTagText false c
    return (.tag (String.ofList handle) text, c)
  else
    let (text, c) ← readTagText false c
    let suffix := handle.drop 1 ++ text
    return (if suffix.isEmpty then .tag "" "!" else .tag "!" (String.ofList suffix), c)

/-- Reads a tag, which a separator follows or, in a flow collection, a comma. -/
def readTag (inFlow : Bool) (c : Cursor) : Except Fault (Token × Cursor) := do
  let (token, c) ← if c.looksAt 1 (· = '<') then readFullTag (c.forward 2) else readShortTag c
  if c.separated 0 || (inFlow && c.sees ',') then return (token, c) else c.fail .badTag

/-! ## Directives -/

/-- Reads a number of a version; it has nine digits at most. -/
def readVersionNumber (c : Cursor) : Except Fault (Nat × Cursor) :=
  let (digits, next) := c.span Char.isDigit
  if digits.isEmpty || 9 < digits.length then c.fail .badDirective
  else .ok (digits.foldl (fun n d => n * 10 + (d.toNat - '0'.toNat)) 0, next)

/-- Reads the rest of a directive for the version. -/
def readVersion (c : Cursor) : Except Fault (Token × Cursor) := do
  let (major, c) ← readVersionNumber c
  if !c.sees '.' then c.fail .badDirective
  else
    let (minor, c) ← readVersionNumber (c.forward 1)
    return (.versionDirective major minor, c)

/-- Reads the rest of a directive for a handle. -/
def readHandleDeclaration (c : Cursor) : Except Fault (Token × Cursor) := do
  let (handle, c) ← readHandle c
  if !(isClosedHandle handle || handle = ['!']) || !c.looksAt 0 isBlank then c.fail .badDirective
  else
    let (text, c) ← readSomeTagText true (c.skip isBlank)
    if c.separated 0 then return (.tagDirective (String.ofList handle) text, c)
    else c.fail .badDirective

/-- Reads a directive with the end of its line. -/
def readDirective (c : Cursor) : Except Fault (Token × Cursor) := do
  let (name, c) := (c.forward 1).span isWord
  if !c.separated 0 then c.fail .badDirective
  else
    let arguments := c.skip isBlank
    let (token, c) ←
      match String.ofList name with
      | "YAML" => readVersion arguments
      | "TAG" => readHandleDeclaration arguments
      | _ => c.fail .badDirective
    let some c := c.skipToLineEnd? | c.fail .badDirective
    return (token, if c.atEnd then c else c.nextLine)

end Dataflow.Yaml
