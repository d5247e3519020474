import Dataflow.Entries
/-!
# Maps that keep their keys sorted

A `SortedMap α` maps text keys to values and lists its keys in increasing order,
by code point. Port values, registered plugins and terminal outputs are kept in
such maps: what they hold does not depend on the order it came in.

`get?_insert` says what an insertion does, and `ext_get?` that a map is determined
by what its keys hold.
-/

namespace Dataflow

universe u v

/-- A map from texts to values whose keys are listed in increasing order. -/
structure SortedMap (α : Type u) where
  entries : List (String × α)
  sorted : (entries.map Prod.fst).Pairwise (· < ·)

namespace SortedMap

variable {α : Type u} {β : Type v}

@[ext] theorem ext {m n : SortedMap α} (h : m.entries = n.entries) : m = n := by
  cases m; cases n; cases h; rfl

instance [DecidableEq α] : DecidableEq (SortedMap α) := fun m n =>
  if h : m.entries = n.entries then isTrue (ext h) else isFalse fun e => h (e ▸ rfl)

/-- The map without keys. -/
def empty : SortedMap α := ⟨[], by simp⟩

instance : EmptyCollection (SortedMap α) := ⟨empty⟩
instance : Inhabited (SortedMap α) := ⟨empty⟩

/-- The keys in increasing order. -/
def keys (m : SortedMap α) : List String := m.entries.map Prod.fst

/-- How many keys the map has. -/
def size (m : SortedMap α) : Nat := m.entries.length

/-- Whether the map has no keys. -/
def isEmpty (m : SortedMap α) : Bool := m.entries.isEmpty

/-- The value under `key`. -/
def get? (m : SortedMap α) (key : String) : Option α := m.entries.lookup key

/-- Whether the map has `key`. -/
def contains (m : SortedMap α) (key : String) : Bool := (m.get? key).isSome

/-- Puts `value` under `key`, instead of what was there. -/
def insert (m : SortedMap α) (key : String) (value : α) : SortedMap α where
  entries := putSorted key value m.entries
  sorted := pairwise_putSorted key value m.entries m.sorted

/-- Inserts the pairs one by one: of two values under one key, the later stays. -/
def ofList (pairs : List (String × α)) : SortedMap α :=
  pairs.foldl (fun m p => m.insert p.1 p.2) empty

/-- Puts everything that `overlay` holds over `m`. -/
def overlay (m : SortedMap α) (overlay : List (String × α)) : SortedMap α :=
  overlay.foldl (fun m p => m.insert p.1 p.2) m

@[simp] theorem get?_empty (key : String) : (empty : SortedMap α).get? key = none := rfl

@[simp] theorem entries_empty : (empty : SortedMap α).entries = [] := rfl

/-- An inserted value is read back under its key, and every other key keeps its value. -/
theorem get?_insert (m : SortedMap α) (key other : String) (value : α) :
    (m.insert key value).get? other = if other = key then some value else m.get? other :=
  lookup_putSorted key other value m.entries

/-- Of the values that are put under a key one stays. -/
theorem get?_overlay_cases (m : SortedMap α) (pairs : List (String × α)) (key : String) :
    (∃ value, (key, value) ∈ pairs ∧ (m.overlay pairs).get? key = some value) ∨
      (∀ value, (key, value) ∉ pairs) ∧ (m.overlay pairs).get? key = m.get? key := by
  induction pairs generalizing m with
  | nil => exact .inr ⟨fun _ => List.not_mem_nil, rfl⟩
  | cons pair rest ih =>
    obtain ⟨k, v⟩ := pair
    rcases ih (m.insert k v) with ⟨value, hm, hget⟩ | ⟨hnone, hget⟩
    · exact .inl ⟨value, List.mem_cons_of_mem _ hm, hget⟩
    · change (m.overlay ((k, v) :: rest)).get? key = _ at hget
      rw [get?_insert] at hget
      by_cases hk : key = k
      · subst hk
        rw [if_pos rfl] at hget
        exact .inl ⟨v, List.mem_cons_self, hget⟩
      · rw [if_neg hk] at hget
        refine .inr ⟨fun value hm => ?_, hget⟩
        rcases List.mem_cons.1 hm with he | hm
        · exact hk (congrArg Prod.fst he)
        · exact hnone value hm

/-- If no key comes with two values, the map holds the pairs. -/
theorem get?_ofList {pairs : List (String × α)}
    (h : ∀ key value value', (key, value) ∈ pairs → (key, value') ∈ pairs → value = value') {key : String} {value : α} :
    (ofList pairs).get? key = some value ↔ (key, value) ∈ pairs := by
  rcases get?_overlay_cases empty pairs key with ⟨value', hm, hget⟩ | ⟨hnone, hget⟩
  · constructor
    · intro hv
      cases hget.symm.trans hv
      exact hm
    · intro hv
      cases h key value value' hv hm
      exact hget
  · constructor
    · intro hv
      cases hget.symm.trans hv
    · exact fun hv => absurd hv (hnone value)

/-- Pairs with distinct keys are what the map holds. -/
theorem get?_ofList_of_nodup {pairs : List (String × α)} (hn : (pairs.map Prod.fst).Nodup) {key : String} {value : α} :
    (ofList pairs).get? key = some value ↔ (key, value) ∈ pairs :=
  get?_ofList fun _ _ _ h h' =>
    Option.some.inj ((lookup_eq_some_of_mem hn h).symm.trans (lookup_eq_some_of_mem hn h'))

theorem nodup_keys (m : SortedMap α) : m.keys.Nodup :=
  List.Pairwise.imp (S := (· ≠ ·)) (fun h e => String.lt_irrefl _ (e ▸ h)) m.sorted

theorem mem_entries_iff {m : SortedMap α} {key : String} {value : α} :
    (key, value) ∈ m.entries ↔ m.get? key = some value :=
  ⟨lookup_eq_some_of_mem m.nodup_keys, mem_of_lookup⟩

theorem mem_keys_iff {m : SortedMap α} {key : String} : key ∈ m.keys ↔ ∃ value, m.get? key = some value := by
  simp [keys, ← mem_entries_iff]

/-- Two maps that hold the same under every key are equal. -/
theorem ext_get? {m n : SortedMap α} (h : ∀ key, m.get? key = n.get? key) : m = n :=
  ext (entries_eq_of_lookup m.sorted n.sorted h)

/-- A map is made of its entries. -/
theorem ofList_entries (m : SortedMap α) : ofList m.entries = m := by
  apply ext_get?
  intro key
  exact Option.ext fun value => (get?_ofList_of_nodup m.nodup_keys).trans mem_entries_iff

end SortedMap

end Dataflow
