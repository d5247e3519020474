import Dataflow.Document.Record
import Dataflow.Proofs.Json.Reading
import Dataflow.Proofs.Json.Value
import Mathlib
/-!
# Parts of documents are read back

A value is read back from its document (`ReadsBack`) if its parts are: lists, maps in their order, values that may
be missing, and the fields of records (`record?_obj`). Documents have no floats of their own, so what is read back
from a document is read back from its text too (`ReadsBack.text`).
-/

namespace Dataflow

variable {α : Type}

/-- A map is made of its entries, in their order. -/
theorem OrderedMap.ofList_entries (m : OrderedMap α) : ofList m.entries = m :=
  OrderedMap.ext (entries_foldl_insert (m := empty) m.nodup)

namespace Document

variable {write : α → Json} {read? : Json → Option α} {a : α}

/-- The document that is written for a value has no floats, and is read as the value. -/
structure ReadsBack (write : α → Json) (read? : Json → Option α) (a : α) : Prop where
  isFloatFree : (write a).isFloatFree = true
  read : read? (write a) = some a

theorem ReadsBack.text (h : ReadsBack write read? a) : (Json.parse? (write a).compress).bind read? = some a := by
  rw [Json.parse?_compress h.isFloatFree, Option.bind_some, h.read]

theorem readsBack_text (s : String) : ReadsBack ofText Json.str? s := ⟨rfl, rfl⟩

theorem readsBack_list {items : List α} (h : ∀ a ∈ items, ReadsBack write read? a) :
    ReadsBack (ofList write) (list? read?) items where
  isFloatFree := by
    rw [ofList, Json.isFloatFree, Json.isFloatFreeItems_iff]
    intro v hv
    obtain ⟨a, ha, rfl⟩ := List.mem_map.1 hv
    exact (h a ha).isFloatFree
  read := Json.mapM_map_eq_some fun a ha => (h a ha).read

theorem readsBack_map {m : OrderedMap α} (h : ∀ a ∈ m.values, ReadsBack write read? a) :
    ReadsBack (ofMap write) (map? read?) m where
  isFloatFree := by
    rw [ofMap, Json.isFloatFree, Json.isFloatFreeMembers_iff]
    intro v hv
    obtain ⟨e, he, rfl⟩ := List.mem_map.1 hv
    exact (h e.2 (List.mem_map_of_mem he)).isFloatFree
  read := by
    have hentries : (m.entries.map fun e => (e.1, write e.2)).mapM
        (fun (e : String × Json) => (read? e.2).map fun a => (e.1, a)) = some m.entries :=
      Json.mapM_map_eq_some fun e he => by simp [(h e.2 (List.mem_map_of_mem he)).read]
    calc map? read? (ofMap write m)
      _ = ((m.entries.map fun e => (e.1, write e.2)).mapM
          (fun (e : String × Json) => (read? e.2).map fun a => (e.1, a))).map OrderedMap.ofList := rfl
      _ = some (.ofList m.entries) := by rw [hentries, Option.map_some]
      _ = some m := congrArg some m.ofList_entries

/-- What is missing is `null`, so nothing else may be written so. -/
theorem readsBack_option {a? : Option α} (hnull : ∀ a, write a ≠ .null) (h : ∀ a ∈ a?, ReadsBack write read? a) :
    ReadsBack (ofOption write) (nullable? read?) a? := by
  cases a? with
  | none => exact ⟨rfl, rfl⟩
  | some a =>
    refine ⟨(h a rfl).isFloatFree, ?_⟩
    have hread : nullable? read? (write a) = (read? (write a)).map some := by
      unfold nullable?
      split
      · rename_i hj
        exact absurd hj (hnull a)
      · rfl
    rw [ofOption, hread, (h a rfl).read, Option.map_some]

/-! ## Records -/

theorem filter_key {members : List (String × Json)} (hn : (members.map Prod.fst).Nodup) (name : String) :
    members.filter (·.1 = name) = ((members.lookup name).map (name, ·)).toList := by
  induction members with
  | nil => rfl
  | cons m members ih =>
    obtain ⟨k, v⟩ := m
    obtain ⟨hk, hn⟩ := List.nodup_cons.1 hn
    by_cases h : k = name
    · subst h
      have hnone : members.filter (·.1 = k) = [] := by
        rw [List.filter_eq_nil_iff]
        intro m hm
        have hne : m.1 ≠ k := ne_of_mem_of_not_mem (List.mem_map_of_mem hm) hk
        simpa using hne
      simp [hnone]
    · simp [lookup_cons_eq, Ne.symm h, h, ih hn]

/-- A field that comes at most once is found. -/
theorem single?_eq {members : List (String × Json)} (hn : (members.map Prod.fst).Nodup) (name : String) :
    single? members name = some ((members.lookup name).map (name, ·)).toList := by
  rw [single?, filter_key hn]
  cases members.lookup name <;> rfl

theorem lookup_fields (members : List (String × Json)) (names : List String) (name : String) :
    (names.map fun n => ((members.lookup n).map (n, ·)).toList).flatten.lookup name =
      if name ∈ names then members.lookup name else none := by
  induction names with
  | nil => rfl
  | cons n names ih =>
    by_cases h : name = n
    · subst h
      cases hl : members.lookup name with
      | none => simp [hl, ih]
      | some v => simp [hl]
    · cases hl : members.lookup n with
      | none => simp [hl, ih, h]
      | some v => simp [hl, lookup_cons_eq, ih, h]

/-- An object whose keys are distinct is a record that shows its members under the names that are asked for. -/
theorem record?_obj (members : List (String × Json)) (hn : (members.map Prod.fst).Nodup) (names : List String) :
    ∃ r, record? names (.obj members) = some r ∧ r.positional = false ∧
      ∀ name ∈ names, r.fields.lookup name = members.lookup name := by
  refine ⟨⟨false, (names.map fun n => ((members.lookup n).map (n, ·)).toList).flatten⟩, ?_, rfl, ?_⟩
  · rw [record?, Json.mapM_eq_some fun name _ => single?_eq hn name, Option.map_some]
  · intro name hname
    rw [lookup_fields, if_pos hname]

end Document

end Dataflow
