import Dataflow.Entries
/-!
# Maps that keep the order of insertion

An `OrderedMap α` maps text keys to values and remembers the order in which the
keys first came. Putting a value under a key that is there already replaces the
value and keeps the key's place. The declarations of a plugin, the nodes of a
graph and the results of a run are kept in such maps, because their order shows.

`get?_insert` and `keys_insert` say what an insertion does to the map and to its order.
-/

namespace Dataflow

universe u v

/-- A map from texts to values that keeps the order in which its keys first came. -/
structure OrderedMap (α : Type u) where
  entries : List (String × α)
  nodup : (entries.map Prod.fst).Nodup

namespace OrderedMap

variable {α : Type u} {β : Type v}

@[ext] theorem ext {m n : OrderedMap α} (h : m.entries = n.entries) : m = n := by
  cases m; cases n; cases h; rfl

instance [DecidableEq α] : DecidableEq (OrderedMap α) := fun m n =>
  if h : m.entries = n.entries then isTrue (ext h) else isFalse fun e => h (e ▸ rfl)

/-- The map without keys. -/
def empty : OrderedMap α := ⟨[], by simp⟩

instance : EmptyCollection (OrderedMap α) := ⟨empty⟩
instance : Inhabited (OrderedMap α) := ⟨empty⟩

/-- The keys in order. -/
def keys (m : OrderedMap α) : List String := m.entries.map Prod.fst

/-- The values in the order of their keys. -/
def values (m : OrderedMap α) : List α := m.entries.map Prod.snd

/-- How many keys the map has. -/
def size (m : OrderedMap α) : Nat := m.entries.length

/-- Whether the map has no keys. -/
def isEmpty (m : OrderedMap α) : Bool := m.entries.isEmpty

/-- The value under `key`. -/
def get? (m : OrderedMap α) (key : String) : Option α := m.entries.lookup key

/-- Whether the map has `key`. -/
def contains (m : OrderedMap α) (key : String) : Bool := (m.get? key).isSome

/-- Puts `value` under `key`: in its place when the key is known, last otherwise. -/
def insert (m : OrderedMap α) (key : String) (value : α) : OrderedMap α where
  entries := putEntry key value m.entries
  nodup := by
    rw [map_fst_putEntry]
    split
    · exact m.nodup
    · rename_i h
      refine List.nodup_append.2 ⟨m.nodup, by simp, fun a ha b hb e => h ?_⟩
      rw [← List.mem_singleton.1 hb, ← e]
      exact ha

/-- Inserts the pairs one by one. -/
def ofList (pairs : List (String × α)) : OrderedMap α :=
  pairs.foldl (fun m p => m.insert p.1 p.2) empty

/-- Applies `f` to every value. -/
def map (f : α → β) (m : OrderedMap α) : OrderedMap β where
  entries := m.entries.map fun e => (e.1, f e.2)
  nodup := by simpa [Function.comp_def] using m.nodup

@[simp] theorem get?_empty (key : String) : (empty : OrderedMap α).get? key = none := rfl

@[simp] theorem entries_empty : (empty : OrderedMap α).entries = [] := rfl

@[simp] theorem keys_empty : (∅ : OrderedMap α).keys = [] := rfl

@[simp] theorem entries_insert (m : OrderedMap α) (key : String) (value : α) :
    (m.insert key value).entries = putEntry key value m.entries := rfl

/-- An inserted value is read back under its key, and every other key keeps its value. -/
theorem get?_insert (m : OrderedMap α) (key other : String) (value : α) :
    (m.insert key value).get? other = if other = key then some value else m.get? other :=
  lookup_putEntry key other value m.entries

@[simp] theorem contains_insert (m : OrderedMap α) (key other : String) (value : α) :
    (m.insert key value).contains other = (decide (other = key) || m.contains other) := by
  by_cases h : other = key <;> simp [contains, get?_insert, h]

theorem mem_of_get? {m : OrderedMap α} {key : String} {value : α} (h : m.get? key = some value) :
    (key, value) ∈ m.entries :=
  mem_of_lookup h

theorem mem_entries_iff {m : OrderedMap α} {key : String} {value : α} :
    (key, value) ∈ m.entries ↔ m.get? key = some value :=
  ⟨lookup_eq_some_of_mem m.nodup, mem_of_get?⟩

theorem contains_iff {m : OrderedMap α} {key : String} : m.contains key ↔ key ∈ m.keys := by
  rw [contains, get?, keys, List.lookup_isSome_iff, List.mem_map]
  simp only [beq_iff_eq]
  exact ⟨fun ⟨e, he, h⟩ => ⟨e, he, h.symm⟩, fun ⟨e, he, h⟩ => ⟨e, he, h.symm⟩⟩

theorem mem_keys_iff {m : OrderedMap α} {key : String} : key ∈ m.keys ↔ ∃ value, m.get? key = some value := by
  rw [← contains_iff, contains, Option.isSome_iff_exists]

theorem mem_keys_insert {m : OrderedMap α} {key other : String} {value : α} :
    other ∈ (m.insert key value).keys ↔ other = key ∨ other ∈ m.keys := by
  simp [← contains_iff]

theorem get?_eq_none_iff {m : OrderedMap α} {key : String} : m.get? key = none ↔ key ∉ m.keys := by
  rw [← contains_iff, contains]
  cases m.get? key <;> simp

/-- An insertion adds an unknown key at the end and keeps the order otherwise. -/
theorem keys_insert (m : OrderedMap α) (key : String) (value : α) :
    (m.insert key value).keys = if key ∈ m.keys then m.keys else m.keys ++ [key] :=
  map_fst_putEntry key value m.entries

theorem entries_insert_of_not_mem {m : OrderedMap α} {key : String} (h : key ∉ m.keys) (value : α) :
    (m.insert key value).entries = m.entries ++ [(key, value)] :=
  putEntry_of_not_mem h

theorem get?_map (f : α → β) (m : OrderedMap α) (key : String) : (m.map f).get? key = (m.get? key).map f := by
  change (m.entries.map fun e => (e.1, f e.2)).lookup key = (m.entries.lookup key).map f
  induction m.entries with
  | nil => rfl
  | cons e rest ih =>
    rw [List.map_cons, lookup_cons_eq, lookup_cons_eq, ih]
    split <;> rfl

@[simp] theorem keys_map (f : α → β) (m : OrderedMap α) : (m.map f).keys = m.keys := by
  simp [keys, map, Function.comp_def]

/-- The entries are the keys, each with its value. -/
theorem entries_eq_map_keys (m : OrderedMap α) (default : α) :
    m.entries = m.keys.map fun key => (key, (m.get? key).getD default) := by
  rw [keys, List.map_map]
  refine (List.map_id m.entries).symm.trans (List.map_congr_left fun e he => ?_)
  simp [mem_entries_iff.1 he]

theorem mem_foldl_insert {m : OrderedMap α} {pairs : List (String × α)} {e : String × α}
    (h : e ∈ (pairs.foldl (fun m p => m.insert p.1 p.2) m).entries) : e ∈ m.entries ∨ e ∈ pairs := by
  induction pairs generalizing m with
  | nil => exact .inl h
  | cons p pairs ih =>
    rcases ih h with h | h
    · rcases mem_putEntry h with rfl | h
      · exact .inr List.mem_cons_self
      · exact .inl h
    · exact .inr (List.mem_cons_of_mem _ h)

/-- Pairs with keys that are new and distinct are kept in their order. -/
theorem entries_foldl_insert {m : OrderedMap α} {pairs : List (String × α)} (h : (m.keys ++ pairs.map Prod.fst).Nodup) :
    (pairs.foldl (fun m p => m.insert p.1 p.2) m).entries = m.entries ++ pairs := by
  induction pairs generalizing m with
  | nil => simp
  | cons p pairs ih =>
    have hnew : p.1 ∉ m.keys := fun hp => (List.nodup_append.1 h).2.2 _ hp _ List.mem_cons_self rfl
    have hkeys : (m.insert p.1 p.2).keys = m.keys ++ [p.1] := by rw [keys_insert, if_neg hnew]
    rw [List.foldl_cons, ih (by simpa [hkeys] using h), entries_insert_of_not_mem hnew, List.append_assoc]
    rfl

end OrderedMap

end Dataflow
