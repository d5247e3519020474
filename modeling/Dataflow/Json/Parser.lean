import Dataflow.Json.Basic
import Dataflow.Text.CharClass
/-!
# Reading JSON texts

`Json.parse?` reads one JSON text and keeps the members of objects in their order,
repeated keys included. Numbers without point and exponent that fit a 64-bit word are
whole, all others are floats; one that is too large for a float reads as infinite, which
`Json.value?` refuses. A float is its first digits, as many as fit a word, times or over
a power of ten: one rounded product or quotient.

The program leaves reading to a library, and what that documents is followed here: the grammar of JSON
without extensions, so neither comments nor commas at the end; control characters within texts only as
escapes, and surrogates only in pairs; `-0` is a float. The limit on nesting is not the reader's:
`Json.value?` and the readers of documents impose it on what they build, and what they pass over may
nest to any depth.

Each reader takes the remaining characters and gives back those after what it read. The
readers of nested values take a bound on the number of steps; the length of the text is
always enough, since every step consumes a character.
-/

namespace Dataflow.Json

/-- Blanks between the parts of a text. -/
def isGap (c : Char) : Bool := c == ' ' || c == '\n' || c == '\t' || c == '\r'

/-- The text after its leading blanks. -/
def skipGap (cs : List Char) : List Char := cs.dropWhile isGap

/-! ## Numbers -/

/-- The greatest number of a word; digits beyond it are not taken into a significand. -/
def wordLimit : Nat := 0xFFFFFFFFFFFFFFFF

/-- The decimal digits at the front, as many as fit a word after `n`: the number they
continue `n` to, how many they are, and the rest. -/
def takeSignificand (n : Nat) (taken : Nat) : List Char → Nat × Nat × List Char
  | c :: rest =>
    if Text.isDigit c ∧ n * 10 + Text.digitValue c ≤ wordLimit then
      takeSignificand (n * 10 + Text.digitValue c) (taken + 1) rest
    else (n, taken, c :: rest)
  | [] => (n, taken, [])

/-- How many digits stand at the front, and the rest. -/
def countDigits (cs : List Char) : Nat × List Char :=
  ((cs.takeWhile Text.isDigit).length, cs.dropWhile Text.isDigit)

/-- The number of a digit sequence. -/
def digitsValue (cs : List Char) : Nat :=
  cs.foldl (fun n c => n * 10 + Text.digitValue c) 0

/-- The power of ten with a natural exponent, rounded. -/
def powerOfTen (k : Nat) : Binary64 := .ofNat (Nat.pow 10 k)

/-- `f · 10 ^ exponent`: one product or quotient as long as the power is a number, and
repeated quotients below that. Only an exponent that is too large gives infinity. -/
def scaleFloat : Nat → Binary64 → Int → Binary64
  | 0, f, _ => f
  | fuel + 1, f, exponent =>
    if exponent.natAbs ≤ 308 then
      if 0 ≤ exponent then f.mul (powerOfTen exponent.natAbs)
      else f.div (powerOfTen exponent.natAbs)
    else if f.significand = 0 then f
    else if 0 ≤ exponent then .ofParts false Binary64.infiniteMagnitude
    else scaleFloat fuel (f.div (powerOfTen 308)) (exponent + 308)

/-- The float with the given significand and exponent of ten; after four quotients nothing is left. -/
def floatOf (negative : Bool) (significand : Nat) (exponent : Int) : Json :=
  let f := scaleFloat 8 (.ofNat significand) exponent
  .float (if negative then f.neg else f)

/-- The greatest exponent that is told apart from all greater ones. -/
def exponentLimit : Nat := 0x7FFFFFFF

/-- An exponent after its mark: an optional sign and at least one digit. -/
def exponent? (negative : Bool) (significand : Nat) (start : Int) (cs : List Char) :
    Option (Json × List Char) :=
  let (down, cs) := match cs with
    | '+' :: rest => (false, rest)
    | '-' :: rest => (true, rest)
    | cs => (false, cs)
  match cs.takeWhile Text.isDigit, cs.dropWhile Text.isDigit with
  | [], _ => none
  | digits, rest =>
    let e := digitsValue digits
    if exponentLimit < e then
      if significand ≠ 0 ∧ !down then
        some (.float (.ofParts negative Binary64.infiniteMagnitude), rest)
      else some (.float (.ofParts negative 0), rest)
    else
      some (floatOf negative significand (if down then start - e else start + e), rest)

/-- What follows the significand and fraction of a float. -/
def floatEnd? (negative : Bool) (significand : Nat) (exponent : Int) (cs : List Char) :
    Option (Json × List Char) :=
  match cs with
  | 'e' :: rest | 'E' :: rest => exponent? negative significand exponent rest
  | cs => some (floatOf negative significand exponent, cs)

/-- A fraction after its point: at least one digit. -/
def fraction? (negative : Bool) (significand : Nat) (start : Int) (cs : List Char) :
    Option (Json × List Char) :=
  if cs.head?.any Text.isDigit then
    let (significand, taken, rest) := takeSignificand significand 0 cs
    floatEnd? negative significand (start - taken) (rest.dropWhile Text.isDigit)
  else none

/-- A number after its sign. -/
def number? (negative : Bool) (cs : List Char) : Option (Json × List Char) :=
  match cs with
  | [] => none
  | c :: rest =>
    if !Text.isDigit c || (c == '0' && rest.head?.any Text.isDigit) then none
    else
      let (n, _, rest) := takeSignificand 0 0 (c :: rest)
      let (dropped, rest) := countDigits rest
      match rest with
      | '.' :: rest => fraction? negative n dropped rest
      | 'e' :: rest | 'E' :: rest => exponent? negative n dropped rest
      | rest =>
        if dropped ≠ 0 then some (floatOf negative n dropped, rest)
        else if negative ∧ (n = 0 ∨ 0x8000000000000000 < n) then some (floatOf true n 0, rest)
        else (WholeNumber.ofInt? (if negative then -n else n)).map fun w => (.whole w, rest)

/-! ## Texts -/

/-- The number of four hexadecimal digits. -/
def hexQuad? (a b c d : Char) : Option Nat := do
  return (((← Text.hexValue? a) * 16 + (← Text.hexValue? b)) * 16 + (← Text.hexValue? c)) * 16 +
    (← Text.hexValue? d)

/-- The character that a pair of surrogates stands for. -/
def surrogatePair? (high low : Nat) : Option Char :=
  if 0xDC00 ≤ low ∧ low ≤ 0xDFFF then
    some (Char.ofNat (0x10000 + (high - 0xD800) * 1024 + (low - 0xDC00)))
  else none

/-- The character of a simple escape. -/
def simpleEscape? : Char → Option Char
  | '"' => some '"'
  | '\\' => some '\\'
  | '/' => some '/'
  | 'b' => some '\x08'
  | 'f' => some '\x0c'
  | 'n' => some '\n'
  | 'r' => some '\r'
  | 't' => some '\t'
  | _ => none

/-- The characters of a text after its opening quote, in reverse before `done`. -/
def textBody? (done : List Char) : List Char → Option (String × List Char)
  | [] => none
  | '"' :: rest => some (String.ofList done.reverse, rest)
  | '\\' :: 'u' :: a :: b :: c :: d :: rest =>
    match hexQuad? a b c d with
    | none => none
    | some n =>
      if 0xD800 ≤ n ∧ n < 0xDC00 then
        match rest with
        | '\\' :: 'u' :: a :: b :: c :: d :: rest =>
          match (hexQuad? a b c d).bind (surrogatePair? n) with
          | none => none
          | some ch => textBody? (ch :: done) rest
        | _ => none
      else if 0xDC00 ≤ n ∧ n ≤ 0xDFFF then none
      else textBody? (Char.ofNat n :: done) rest
  | '\\' :: c :: rest =>
    match simpleEscape? c with
    | none => none
    | some ch => textBody? (ch :: done) rest
  | c :: rest => if c.toNat < 32 || c == '\\' then none else textBody? (c :: done) rest

/-! ## Values -/

mutual

/-- A value, with blanks before it. -/
def readValue : Nat → List Char → Option (Json × List Char)
  | 0, _ => none
  | fuel + 1, cs =>
    match skipGap cs with
    | 'n' :: 'u' :: 'l' :: 'l' :: rest => some (.null, rest)
    | 't' :: 'r' :: 'u' :: 'e' :: rest => some (.bool true, rest)
    | 'f' :: 'a' :: 'l' :: 's' :: 'e' :: rest => some (.bool false, rest)
    | '"' :: rest => (textBody? [] rest).map fun (s, rest) => (.str s, rest)
    | '[' :: rest =>
      match skipGap rest with
      | ']' :: rest => some (.arr [], rest)
      | rest => (readItems fuel [] rest).map fun (items, rest) => (.arr items, rest)
    | '{' :: rest =>
      match skipGap rest with
      | '}' :: rest => some (.obj [], rest)
      | rest => (readMembers fuel [] rest).map fun (members, rest) => (.obj members, rest)
    | '-' :: rest => number? true rest
    | rest => number? false rest

/-- The elements of an array up to its end, the first not yet read; those before are in `done`. -/
def readItems : Nat → List Json → List Char → Option (List Json × List Char)
  | 0, _, _ => none
  | fuel + 1, done, cs =>
    match readValue fuel cs with
    | none => none
    | some (v, rest) =>
      match skipGap rest with
      | ',' :: rest => readItems fuel (v :: done) rest
      | ']' :: rest => some ((v :: done).reverse, rest)
      | _ => none

/-- The members of an object up to its end, the first not yet read; those before are in `done`. -/
def readMembers : Nat → List (String × Json) → List Char →
    Option (List (String × Json) × List Char)
  | 0, _, _ => none
  | fuel + 1, done, cs =>
    match skipGap cs with
    | '"' :: rest =>
      match textBody? [] rest with
      | none => none
      | some (key, rest) =>
        match skipGap rest with
        | ':' :: rest =>
          match readValue fuel rest with
          | none => none
          | some (v, rest) =>
            match skipGap rest with
            | ',' :: rest => readMembers fuel ((key, v) :: done) rest
            | '}' :: rest => some (((key, v) :: done).reverse, rest)
            | _ => none
        | _ => none
    | _ => none

end

/-- What a JSON text says, `none` when it is not one. -/
def parse? (text : String) : Option Json :=
  match readValue (text.length + 1) text.toList with
  | some (v, rest) => if (skipGap rest).isEmpty then some v else none
  | none => none

end Dataflow.Json
