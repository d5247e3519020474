/-!
# Lists of keyed entries

The two ways to put a value under a key in a list of pairs: in the place the key
already has, or at the place where it keeps the keys increasing. Looking a key up
afterwards gives the same answer either way (`lookup_putEntry`, `lookup_putSorted`);
what differs is the order of the keys. `entries_eq_of_lookup` says that a list with
increasing keys is determined by its lookups.
-/

namespace Dataflow

universe u

/-- Looking a key up goes through the list from the front. -/
theorem lookup_cons_eq {α : Type u} (key k : String) (v : α) (rest : List (String × α)) :
    ((k, v) :: rest).lookup key = if key = k then some v else rest.lookup key := by
  rw [List.lookup_cons]
  by_cases h : key = k
  · simp [h]
  · have : (key == k) = false := by simpa using h
    simp [this, h]

/-- Among distinct keys every pair is found under its key. -/
theorem lookup_eq_some_of_mem {α : Type u} {entries : List (String × α)} {key : String} {value : α}
    (hn : (entries.map Prod.fst).Nodup) (h : (key, value) ∈ entries) : entries.lookup key = some value := by
  obtain ⟨front, back, rfl⟩ := List.append_of_mem h
  simp only [List.map_append, List.map_cons, List.nodup_append] at hn
  refine List.lookup_eq_some_iff.2 ⟨front, back, rfl, fun e he => ?_⟩
  have hne := hn.2.2 e.1 (List.mem_map_of_mem he) key List.mem_cons_self
  simpa using fun h => hne h.symm

theorem mem_of_lookup {α : Type u} {entries : List (String × α)} {key : String} {value : α}
    (h : entries.lookup key = some value) : (key, value) ∈ entries := by
  obtain ⟨front, back, rfl, -⟩ := List.lookup_eq_some_iff.1 h
  simp

/-- Replaces the value under `key`, or adds the pair at the end. -/
def putEntry {α : Type u} (key : String) (value : α) : List (String × α) → List (String × α)
  | [] => [(key, value)]
  | (k, v) :: rest => if k = key then (key, value) :: rest else (k, v) :: putEntry key value rest

/-- The keys after an insertion: the new key comes last, a known one stays. -/
theorem map_fst_putEntry {α : Type u} (key : String) (value : α) (entries : List (String × α)) :
    (putEntry key value entries).map Prod.fst =
      if key ∈ entries.map Prod.fst then entries.map Prod.fst
      else entries.map Prod.fst ++ [key] := by
  induction entries with
  | nil => simp [putEntry]
  | cons e rest ih =>
    obtain ⟨k, v⟩ := e
    by_cases h : k = key
    · simp [putEntry, h]
    · have h' : ¬ key = k := fun e => h e.symm
      simp only [putEntry, h, if_false, List.map_cons, ih, List.mem_cons, h', false_or]
      split <;> rfl

/-- An unknown key comes last. -/
theorem putEntry_of_not_mem {α : Type u} {key : String} {value : α} {entries : List (String × α)}
    (h : key ∉ entries.map Prod.fst) : putEntry key value entries = entries ++ [(key, value)] := by
  induction entries with
  | nil => rfl
  | cons e rest ih =>
    rw [List.map_cons, List.mem_cons, not_or] at h
    rw [putEntry, if_neg (Ne.symm h.1), ih h.2, List.cons_append]

theorem mem_putEntry {α : Type u} {key : String} {value : α} {entries : List (String × α)} {e : String × α}
    (h : e ∈ putEntry key value entries) : e = (key, value) ∨ e ∈ entries := by
  induction entries with
  | nil => exact .inl (List.mem_singleton.1 h)
  | cons x rest ih =>
    obtain ⟨k, v⟩ := x
    unfold putEntry at h
    split at h
    · exact (List.mem_cons.1 h).imp_right (List.mem_cons_of_mem _)
    · rcases List.mem_cons.1 h with rfl | h
      · exact .inr List.mem_cons_self
      · exact (ih h).imp_right (List.mem_cons_of_mem _)

theorem lookup_putEntry {α : Type u} (key other : String) (value : α) (entries : List (String × α)) :
    (putEntry key value entries).lookup other =
      if other = key then some value else entries.lookup other := by
  induction entries with
  | nil => simp [putEntry, lookup_cons_eq]
  | cons e rest ih =>
    obtain ⟨k, v⟩ := e
    rw [putEntry]
    split <;> simp only [lookup_cons_eq, ih] <;> grind

/-- Puts `value` under `key` into a list of pairs with increasing keys. -/
def putSorted {α : Type u} (key : String) (value : α) : List (String × α) → List (String × α)
  | [] => [(key, value)]
  | (k, v) :: rest =>
    if key < k then (key, value) :: (k, v) :: rest
    else if k = key then (key, value) :: rest
    else (k, v) :: putSorted key value rest

theorem mem_map_fst_putSorted {α : Type u} (key other : String) (value : α)
    (entries : List (String × α)) :
    other ∈ (putSorted key value entries).map Prod.fst ↔
      other = key ∨ other ∈ entries.map Prod.fst := by
  induction entries with
  | nil => simp [putSorted]
  | cons e rest ih =>
    obtain ⟨k, v⟩ := e
    rw [putSorted]
    split
    · simp
    · split
      · rename_i h; simp [h]
      · simp only [List.map_cons, List.mem_cons, ih]
        constructor
        · rintro (h | h | h) <;> simp [h]
        · rintro (h | h | h) <;> simp [h]

/-- The order of keys: code points, compared from the left. -/
theorem key_lt_trichotomy {a b : String} (h₁ : ¬ a < b) (h₂ : ¬ b = a) : b < a :=
  String.not_le.1 fun h => h₂ (String.le_antisymm (String.not_lt.1 h₁) h)

theorem pairwise_putSorted {α : Type u} (key : String) (value : α) (entries : List (String × α))
    (h : (entries.map Prod.fst).Pairwise (· < ·)) :
    ((putSorted key value entries).map Prod.fst).Pairwise (· < ·) := by
  induction entries with
  | nil => simp [putSorted]
  | cons e rest ih =>
    obtain ⟨k, v⟩ := e
    simp only [List.map_cons, List.pairwise_cons] at h
    rw [putSorted]
    split
    · rename_i hlt
      simp only [List.map_cons, List.pairwise_cons, List.mem_cons]
      refine ⟨?_, h⟩
      rintro a (rfl | ha)
      · exact hlt
      · exact String.lt_trans hlt (h.1 a ha)
    · rename_i hge
      split
      · rename_i heq
        subst heq
        simpa using h
      · rename_i hne
        simp only [List.map_cons, List.pairwise_cons]
        refine ⟨fun a ha => ?_, ih h.2⟩
        rcases (mem_map_fst_putSorted key a value rest).1 ha with rfl | ha
        · exact key_lt_trichotomy hge hne
        · exact h.1 a ha

/-- A key behind all others comes last. -/
theorem putSorted_of_gt {α : Type u} {key : String} {value : α} {entries : List (String × α)}
    (h : ∀ k ∈ entries.map Prod.fst, k < key) : putSorted key value entries = entries ++ [(key, value)] := by
  induction entries with
  | nil => rfl
  | cons e rest ih =>
    obtain ⟨k, v⟩ := e
    obtain ⟨hk, hrest⟩ := List.forall_mem_cons.1 h
    have hne : k ≠ key := fun he => String.lt_irrefl k (he ▸ hk)
    rw [putSorted, if_neg (String.lt_asymm hk), if_neg hne, ih hrest, List.cons_append]

theorem lookup_putSorted {α : Type u} (key other : String) (value : α)
    (entries : List (String × α)) :
    (putSorted key value entries).lookup other =
      if other = key then some value else entries.lookup other := by
  induction entries with
  | nil => simp [putSorted, lookup_cons_eq]
  | cons e rest ih =>
    obtain ⟨k, v⟩ := e
    rw [putSorted]
    split
    · simp only [lookup_cons_eq]
    · split <;> simp only [lookup_cons_eq, ih] <;> grind

/-- A key below all keys of a list is not found in it. -/
theorem lookup_eq_none_of_lt {α : Type u} {entries : List (String × α)} {key : String}
    (h : ∀ k ∈ entries.map Prod.fst, key < k) : entries.lookup key = none := by
  induction entries with
  | nil => rfl
  | cons e rest ih =>
    obtain ⟨k, v⟩ := e
    have hne : key ≠ k := fun e => String.lt_irrefl k (e ▸ h k (by simp))
    rw [lookup_cons_eq, if_neg hne]
    exact ih fun a ha => h a (by simp [ha])

/-- Lists of pairs with increasing keys that look up alike are equal. -/
theorem entries_eq_of_lookup {α : Type u} {xs ys : List (String × α)}
    (hx : (xs.map Prod.fst).Pairwise (· < ·)) (hy : (ys.map Prod.fst).Pairwise (· < ·))
    (h : ∀ key, xs.lookup key = ys.lookup key) : xs = ys := by
  induction xs generalizing ys with
  | nil =>
    cases ys with
    | nil => rfl
    | cons y ys =>
      obtain ⟨k, v⟩ := y
      simpa [lookup_cons_eq] using h k
  | cons x xs ih =>
    obtain ⟨a, b⟩ := x
    cases ys with
    | nil => simpa [lookup_cons_eq] using h a
    | cons y ys =>
      obtain ⟨c, d⟩ := y
      simp only [List.map_cons, List.pairwise_cons] at hx hy
      have hac : a = c := by
        by_cases h₁ : a < c
        · have := h a
          rw [@lookup_eq_none_of_lt _ ((c, d) :: ys)] at this
          · simp at this
          · simp only [List.map_cons, List.mem_cons]
            rintro k (rfl | hk)
            · exact h₁
            · exact String.lt_trans h₁ (hy.1 k hk)
        · by_cases h₂ : c = a
          · exact h₂.symm
          · have hlt := key_lt_trichotomy h₁ h₂
            have := h c
            rw [@lookup_eq_none_of_lt _ ((a, b) :: xs)] at this
            · simp at this
            · simp only [List.map_cons, List.mem_cons]
              rintro k (rfl | hk)
              · exact hlt
              · exact String.lt_trans hlt (hx.1 k hk)
      subst hac
      have hbd : b = d := by simpa [lookup_cons_eq] using h a
      have hrest : xs = ys := by
        refine ih hx.2 hy.2 fun key => ?_
        by_cases e : key = a
        · subst e
          rw [lookup_eq_none_of_lt hx.1, lookup_eq_none_of_lt hy.1]
        · simpa [lookup_cons_eq, e] using h key
      rw [hbd, hrest]

end Dataflow
