import Dataflow.Decimal.Binary64
import Dataflow.SortedMap
/-!
# JSON values

A `Json` is what a JSON text says: its object members stand in the order of the text.
The values that flow between ports are those whose objects list every key once, in
increasing order (`Json.Canonical`); `Json.value?` makes one from what a text says.

The program leaves values to a library, and what that documents is followed here: whole numbers are
those of a signed or an unsigned 64-bit word and all others are floats, objects are sorted by the bytes
of their keys, the later of two members with one key counts, and containers nest at most 127 deep.
-/

namespace Dataflow

/-- The whole numbers of JSON values: those that a signed or an unsigned 64-bit word holds. -/
structure WholeNumber where
  val : Int
  lower : -0x8000000000000000 ≤ val
  upper : val < 0x10000000000000000
deriving DecidableEq

namespace WholeNumber

/-- The whole number `n`, if it fits. -/
def ofInt? (n : Int) : Option WholeNumber :=
  if h : -0x8000000000000000 ≤ n ∧ n < 0x10000000000000000 then some ⟨n, h.1, h.2⟩ else none

/-- Every signed word is a whole number. -/
def ofInt64 (n : Int64) : WholeNumber where
  val := n.toInt
  lower := by have := Int64.le_toInt n; omega
  upper := by have := Int64.toInt_lt n; omega

/-- The signed word with this value, if there is one. -/
def toInt64? (n : WholeNumber) : Option Int64 :=
  if n.val < 0x8000000000000000 then some (Int64.ofInt n.val) else none

instance : OfNat WholeNumber 0 := ⟨⟨0, by decide, by decide⟩⟩

end WholeNumber

/-- What a JSON text says. -/
inductive Json where
  | null
  | bool (b : Bool)
  | whole (n : WholeNumber)
  /-- A number written with a point or an exponent, or too large for a word. -/
  | float (x : Binary64)
  | str (s : String)
  | arr (items : List Json)
  | obj (members : List (String × Json))
deriving Inhabited

namespace Json

/-- The number of a signed word. -/
def int (n : Int64) : Json := .whole (.ofInt64 n)

/-- The number `n` of a count. -/
def count (n : Nat) : Json := .whole ((WholeNumber.ofInt? n).getD 0)

/-- The object with the members of a map. -/
def ofMap (m : SortedMap Json) : Json := .obj m.entries

/-- The text of a string value. -/
def str? : Json → Option String
  | .str s => some s
  | _ => none

/-- The truth value of a boolean. -/
def bool? : Json → Option Bool
  | .bool b => some b
  | _ => none

/-- The signed word of a whole number that fits one. -/
def int64? : Json → Option Int64
  | .whole n => n.toInt64?
  | _ => none

/-- The members of an object. -/
def members? : Json → Option (List (String × Json))
  | .obj members => some members
  | _ => none

/-- The elements of an array. -/
def items? : Json → Option (List Json)
  | .arr items => some items
  | _ => none

mutual

/-- Objects list their keys in increasing order, each key once. -/
def Canonical : Json → Prop
  | .arr items => CanonicalItems items
  | .obj members => (members.map Prod.fst).Pairwise (· < ·) ∧ CanonicalMembers members
  | _ => True

/-- Every element is canonical. -/
def CanonicalItems : List Json → Prop
  | [] => True
  | v :: rest => Canonical v ∧ CanonicalItems rest

/-- The value of every member is canonical. -/
def CanonicalMembers : List (String × Json) → Prop
  | [] => True
  | (_, v) :: rest => Canonical v ∧ CanonicalMembers rest

end

mutual

/-- How many containers stand around the innermost value, the value's own ones counted. -/
def depth : Json → Nat
  | .arr items => depthItems items + 1
  | .obj members => depthMembers members + 1
  | _ => 0

/-- The greatest depth of the elements. -/
def depthItems : List Json → Nat
  | [] => 0
  | v :: rest => max (depth v) (depthItems rest)

/-- The greatest depth of the members. -/
def depthMembers : List (String × Json) → Nat
  | [] => 0
  | (_, v) :: rest => max (depth v) (depthMembers rest)

end

mutual

/-- Whether no float occurs in the value. -/
def isFloatFree : Json → Bool
  | .float _ => false
  | .arr items => isFloatFreeItems items
  | .obj members => isFloatFreeMembers members
  | _ => true

/-- Whether no float occurs in the elements. -/
def isFloatFreeItems : List Json → Bool
  | [] => true
  | v :: rest => isFloatFree v && isFloatFreeItems rest

/-- Whether no float occurs in the members. -/
def isFloatFreeMembers : List (String × Json) → Bool
  | [] => true
  | (_, v) :: rest => isFloatFree v && isFloatFreeMembers rest

end

/-- How deep containers may nest in a text that is read as a value. -/
def maxDepth : Nat := 127

mutual

/-- The value that a text says: members sorted by key, the later of two members with one
key, at most `room` containers deep and with finite numbers only. -/
def valueWithin (room : Nat) : Json → Option Json
  | .float x => if x.isFinite then some (.float x) else none
  | .arr items =>
    match room with
    | 0 => none
    | room + 1 => (itemsWithin room items).map .arr
  | .obj members =>
    match room with
    | 0 => none
    | room + 1 => (membersWithin room members []).map .obj
  | v => some v

/-- Every element as a value. -/
def itemsWithin (room : Nat) : List Json → Option (List Json)
  | [] => some []
  | v :: rest =>
    match valueWithin room v, itemsWithin room rest with
    | some v, some rest => some (v :: rest)
    | _, _ => none

/-- The members as values, put one by one into the sorted `done`. -/
def membersWithin (room : Nat) : List (String × Json) → List (String × Json) →
    Option (List (String × Json))
  | [], done => some done
  | (k, v) :: rest, done =>
    match valueWithin room v with
    | some v => membersWithin room rest (putSorted k v done)
    | none => none

end

/-- The value that a text says, if it nests no deeper than `maxDepth`. -/
def value? (j : Json) : Option Json := valueWithin maxDepth j

/-- The members of an object as a map of values. -/
def valueMap? (j : Json) : Option (SortedMap Json) :=
  match j with
  | .obj members => do
    let pairs ← members.mapM fun (k, v) => (valueWithin (maxDepth - 1) v).map (k, ·)
    return .ofList pairs
  | _ => none

end Json

end Dataflow
