import Dataflow.Yaml.Document
/-!
# Reading values out of YAML documents

A node is read as a text, a number, a list or a mapping by what it stands for. Where nothing is
written, a list or a mapping is empty, and an optional value is absent.
-/

namespace Dataflow.Yaml

/-- Why a text cannot be read as a value. -/
inductive ReadError where
  | notYaml (fault : Fault)
  | repeatedField (name : String)
  /-- Something else stands where this is expected. -/
  | expected (what : String)
deriving DecidableEq

/-- The words for a read error. -/
def ReadError.message : ReadError → String
  | .notYaml fault => fault.message
  | .repeatedField name => s!"field '{name}' is repeated"
  | .expected what => s!"expected {what}"

/-! ## Scalars -/

/-- Whether a text is one of the words for nothing. -/
def isNull (text : String) : Bool := ["~", "null", "Null", "NULL"].contains text

/-- The tag of nothing. -/
def nullTag : String := "tag:yaml.org,2002:null"

/-- The tag of integers. -/
def integerTag : String := "tag:yaml.org,2002:int"

/-- The number that some digits stand for in a base. -/
def digitsNumber? (base : Nat) (cs : List Char) : Option Nat :=
  if cs.isEmpty then none
  else
    cs.foldlM (fun n c => do
      let d ← Text.hexValue? c
      if d < base then some (n * base + d) else none) 0

/-- The base that a text starts with, and the digits after it. -/
def basedDigits? : List Char → Option (Nat × List Char)
  | '0' :: 'x' :: digits => some (16, digits)
  | '0' :: 'o' :: digits => some (8, digits)
  | '0' :: 'b' :: digits => some (2, digits)
  | _ => none

/-- Whether a text is a number with needless zeros before it. -/
def hasLeadingZero (cs : List Char) : Bool := 1 < cs.length && cs.head? = some '0'

/-- The number that a scalar stands for, if it fits a word: decimal without leading zeros or in a base
that is named, with or without a plus sign. -/
def natOfText? (text : String) : Option Nat := do
  let cs := match text.toList with
    | '+' :: cs => cs
    | cs => cs
  let n ←
    match basedDigits? cs with
    | some (base, digits) => digitsNumber? base digits
    | none => if hasLeadingZero cs then none else digitsNumber? 10 cs
  if n < 0x10000000000000000 then some n else none

namespace Document

/-! ## Fields

What a node is read as, after looking up what it stands for. -/

/-- The text of a scalar. -/
def text (d : Document) (n : Node) : Except ReadError String :=
  match d.resolve n with
  | .scalar _ _ text => .ok text
  | _ => .error (.expected "a text")

/-- The texts of a sequence; nothing stands for none. -/
def texts (d : Document) (n : Node) : Except ReadError (List String) :=
  match d.resolve n with
  | .scalar _ .plain "" => .ok []
  | .sequence entries => entries.mapM d.text
  | _ => .error (.expected "a sequence")

/-- The fields of a mapping; nothing stands for none. -/
def fields (d : Document) (n : Node) : Except ReadError (List (String × Node)) :=
  match d.resolve n with
  | .scalar _ .plain "" => .ok []
  | .mapping pairs => pairs.mapM fun (key, value) => (d.text key).map (·, value)
  | _ => .error (.expected "a mapping")

/-- A number. It may be quoted nowhere, and tagged as an integer in a literal block. -/
def nat (d : Document) (n : Node) : Except ReadError Nat :=
  let number? :=
    match d.resolve n with
    | .scalar tag? style text =>
      if style = .plain || (style = .literal && tag? = some integerTag) then natOfText? text
      else none
    | _ => none
  match number? with
  | some number => .ok number
  | none => .error (.expected "an unsigned integer")

/-- What may be nothing: a plain scalar that is empty or a word for nothing. A tag other than that
of nothing makes it something. -/
def optional {α : Type} (read : Node → Except ReadError α) (d : Document) (n : Node) :
    Except ReadError (Option α) :=
  match d.resolve n with
  | .scalar none .plain text =>
    if text.isEmpty || isNull text then .ok none else (read n).map some
  | .scalar (some tag) .plain text =>
    if tag ≠ nullTag then (read n).map some
    else if isNull text then .ok none
    else .error (.expected "nothing")
  | _ => (read n).map some

/-- The name in a tag of the document itself. -/
def localName? (tag : String) : Option String :=
  match tag.toList with
  | ['!'] => some tag
  | '!' :: name => some (String.ofList name)
  | _ => none

/-- The name of a choice: a scalar, or the tag of nothing. -/
def choice (d : Document) (n : Node) : Except ReadError String :=
  match d.resolve n with
  | .scalar tag? style text =>
    match tag?.bind localName? with
    | none => .ok text
    | some name =>
      if style = .plain && (text.isEmpty || isNull text) then .ok name
      else .error (.expected "nothing")
  | _ => .error (.expected "a name")

/-- Reads a field, which may be left out but not repeated. -/
def readField {α : Type} (fields : List (String × Node)) (name : String) (default : α)
    (read : Node → Except ReadError α) : Except ReadError α :=
  match fields.filter (·.1 = name) with
  | [] => .ok default
  | [(_, n)] => read n
  | _ => .error (.repeatedField name)

end Document

end Dataflow.Yaml
