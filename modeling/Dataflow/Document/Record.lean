import Dataflow.Json.Basic
import Dataflow.OrderedMap
/-!
# Records in JSON documents

How the parts of a document are read. A record is an object with named fields, of which each known
one comes at most once and unknown ones are passed over, or an array with the fields in their order.
Maps keep the order of the document; of two entries with one key the later counts, in the place
of the first.

The program has its readers derived by a library from the types and their attributes, and what that
documents of derived readers is followed here: a field is required, has a default when it is left out,
or may be `null`, in which case it may be left out of an object but not of an array; a name out of
several may also come as an object with the name and `null`; an unknown field is never an error. That
the fields are written in the order of their declaration is documented too.
-/

namespace Dataflow.Document

/-- The fields of a record. -/
structure Record where
  /-- Whether the fields came by position. -/
  positional : Bool
  fields : List (String × Json)

/-- The single value under a key, if it comes at most once. -/
def single? (members : List (String × Json)) (name : String) : Option (List (String × Json)) :=
  match members.filter (·.1 = name) with
  | [] => some []
  | [m] => some [m]
  | _ => none

/-- The record with the given field names that a value is. -/
def record? (names : List String) : Json → Option Record
  | .obj members => (names.mapM (single? members)).map fun found => ⟨false, found.flatten⟩
  | .arr items => if items.length ≤ names.length then some ⟨true, names.zip items⟩ else none
  | _ => none

namespace Record

variable {α : Type}

/-- A field that has to be there. -/
def required (r : Record) (name : String) (read? : Json → Option α) : Option α :=
  (r.fields.lookup name).bind read?

/-- A field that may be left out. -/
def withDefault (r : Record) (name : String) (value : α) (read? : Json → Option α) : Option α :=
  match r.fields.lookup name with
  | some j => read? j
  | none => some value

end Record

variable {α : Type}

/-- A value, or `null` for none. -/
def nullable? (read? : Json → Option α) : Json → Option (Option α)
  | .null => some none
  | j => (read? j).map some

/-- A field that may be `null`, and may be left out of an object. -/
def Record.optional (r : Record) (name : String) (read? : Json → Option α) : Option (Option α) :=
  match r.fields.lookup name with
  | some j => nullable? read? j
  | none => if r.positional then none else some none

/-- A list. -/
def list? (read? : Json → Option α) : Json → Option (List α)
  | .arr items => items.mapM read?
  | _ => none

/-- A map in the order of the document. -/
def map? (read? : Json → Option α) : Json → Option (OrderedMap α)
  | .obj members =>
    (members.mapM fun (m : String × Json) => (read? m.2).map fun a => (m.1, a)).map
      OrderedMap.ofList
  | _ => none

/-- One of several names: a text, or an object with the name and `null`. -/
def choice? (ofName? : String → Option α) : Json → Option α
  | .str name => ofName? name
  | .obj [(name, .null)] => ofName? name
  | _ => none

/-- A natural number of at most 64 bits. -/
def nat? : Json → Option Nat
  | .whole n => if 0 ≤ n.val then some n.val.toNat else none
  | _ => none

/-- A list as a value. -/
def ofList (write : α → Json) (items : List α) : Json := .arr (items.map write)

/-- A map as an object. -/
def ofMap (write : α → Json) (m : OrderedMap α) : Json :=
  .obj (m.entries.map fun (k, v) => (k, write v))

/-- A text as a value. -/
def ofText (s : String) : Json := .str s

/-- A value that may be missing. -/
def ofOption (write : α → Json) : Option α → Json
  | some a => write a
  | none => .null

end Dataflow.Document
