import Dataflow.Json.Basic
import Mathlib
/-!
# Canonical values

A canonical value is what it says (`valueWithin_canonical`): its members stand in the order in which a value
keeps them, so taking it as a value changes nothing, as long as it is not nested too deep. A map of such
values is read back from its object (`valueMap?_ofMap`).
-/

namespace Dataflow.Json

theorem mapM_eq_some {α β : Type} {f : α → Option β} {g : α → β} {xs : List α} (h : ∀ x ∈ xs, f x = some (g x)) :
    xs.mapM f = some (xs.map g) := by
  induction xs with
  | nil => rfl
  | cons x xs ih =>
    obtain ⟨hx, hxs⟩ := List.forall_mem_cons.1 h
    rw [List.mapM_cons, hx, ih hxs]
    rfl

/-- What is written of each element is read back, so all of them are. -/
theorem mapM_map_eq_some {α β : Type} {write : α → β} {read? : β → Option α} {xs : List α}
    (h : ∀ x ∈ xs, read? (write x) = some x) : (xs.map write).mapM read? = some xs := by
  have hread := mapM_eq_some (f := read? ∘ write) (g := id) h
  rwa [← List.mapM_map, List.map_id] at hread

mutual

/-- A canonical value is the value that it says. -/
theorem valueWithin_canonical : ∀ (j : Json) (room : Nat), j.Canonical → j.isFloatFree = true → j.depth ≤ room →
    valueWithin room j = some j
  | .null, _, _, _, _ => by simp [valueWithin]
  | .bool _, _, _, _, _ => by simp [valueWithin]
  | .whole _, _, _, _, _ => by simp [valueWithin]
  | .float _, _, _, hfloat, _ => by cases hfloat
  | .str _, _, _, _, _ => by simp [valueWithin]
  | .arr items, 0, _, _, hdepth => by cases hdepth
  | .arr items, room + 1, hcanonical, hfloat, hdepth => by
    rw [valueWithin, itemsWithin_canonical items room hcanonical hfloat (Nat.le_of_succ_le_succ hdepth)]
    rfl
  | .obj members, 0, _, _, hdepth => by cases hdepth
  | .obj members, room + 1, hcanonical, hfloat, hdepth => by
    rw [valueWithin, membersWithin_canonical members room [] hcanonical.1 hcanonical.2 hfloat
      (Nat.le_of_succ_le_succ hdepth)]
    rfl

theorem itemsWithin_canonical : ∀ (items : List Json) (room : Nat), CanonicalItems items →
    isFloatFreeItems items = true → depthItems items ≤ room → itemsWithin room items = some items
  | [], _, _, _, _ => by rw [itemsWithin]
  | v :: rest, room, hcanonical, hfloat, hdepth => by
    obtain ⟨hv, hrest⟩ := Bool.and_eq_true_iff.1 hfloat
    obtain ⟨hdv, hdrest⟩ := Nat.max_le.1 hdepth
    rw [itemsWithin, valueWithin_canonical v room hcanonical.1 hv hdv,
      itemsWithin_canonical rest room hcanonical.2 hrest hdrest]

/-- Each member has a greater key than those before it, and is put behind them. -/
theorem membersWithin_canonical : ∀ (members : List (String × Json)) (room : Nat) (done : List (String × Json)),
    ((done ++ members).map Prod.fst).Pairwise (· < ·) → CanonicalMembers members →
    isFloatFreeMembers members = true → depthMembers members ≤ room →
    membersWithin room members done = some (done ++ members)
  | [], _, done, _, _, _, _ => by rw [membersWithin, List.append_nil]
  | (k, v) :: rest, room, done, hsorted, hcanonical, hfloat, hdepth => by
    obtain ⟨hv, hrest⟩ := Bool.and_eq_true_iff.1 hfloat
    obtain ⟨hdv, hdrest⟩ := Nat.max_le.1 hdepth
    have hlast : ∀ key ∈ done.map Prod.fst, key < k := by
      rw [List.map_append, List.pairwise_append] at hsorted
      exact fun key hkey => hsorted.2.2 key hkey k List.mem_cons_self
    have hsorted : ((done ++ [(k, v)] ++ rest).map Prod.fst).Pairwise (· < ·) := by simpa using hsorted
    rw [membersWithin, valueWithin_canonical v room hcanonical.1 hv hdv]
    dsimp only
    rw [putSorted_of_gt hlast, membersWithin_canonical rest room _ hsorted hcanonical.2 hrest hdrest, List.append_assoc,
      List.singleton_append]

end

theorem canonicalMembers_iff {members : List (String × Json)} :
    CanonicalMembers members ↔ ∀ m ∈ members, m.2.Canonical := by
  induction members with
  | nil => simp [CanonicalMembers]
  | cons m members ih => simp [CanonicalMembers, ih]

theorem isFloatFreeMembers_iff {members : List (String × Json)} :
    isFloatFreeMembers members = true ↔ ∀ m ∈ members, m.2.isFloatFree = true := by
  induction members with
  | nil => simp [isFloatFreeMembers]
  | cons m members ih => simp [isFloatFreeMembers, ih]

theorem isFloatFreeItems_iff {items : List Json} :
    isFloatFreeItems items = true ↔ ∀ v ∈ items, v.isFloatFree = true := by
  induction items with
  | nil => simp [isFloatFreeItems]
  | cons v items ih => simp [isFloatFreeItems, ih]

theorem depthMembers_le_iff {members : List (String × Json)} {n : Nat} :
    depthMembers members ≤ n ↔ ∀ m ∈ members, m.2.depth ≤ n := by
  induction members with
  | nil => simp [depthMembers]
  | cons m members ih => simp [depthMembers, ih]

/-- As many arrays in each other. -/
def nested : Nat → Json
  | 0 => .null
  | n + 1 => .arr [nested n]

theorem canonical_nested (n : Nat) : (nested n).Canonical := by
  induction n with
  | zero => trivial
  | succ n ih => exact ⟨ih, trivial⟩

theorem isFloatFree_nested (n : Nat) : (nested n).isFloatFree = true := by
  induction n with
  | zero => rfl
  | succ n ih => simp [nested, isFloatFree, isFloatFreeItems, ih]

theorem depth_nested (n : Nat) : (nested n).depth = n := by
  induction n with
  | zero => rfl
  | succ n ih => simp [nested, depth, depthItems, ih]

/-- A map of canonical values is read back from its object. -/
theorem valueMap?_ofMap {m : SortedMap Json} (hcanonical : (ofMap m).Canonical) (hfloat : (ofMap m).isFloatFree = true)
    (hdepth : (ofMap m).depth ≤ maxDepth) : (ofMap m).valueMap? = some m := by
  have hentries : (m.entries.mapM fun e => (valueWithin (maxDepth - 1) e.2).map (e.1, ·)) = some m.entries := by
    refine (mapM_eq_some (g := id) ?_).trans (congrArg some (List.map_id _))
    intro e hm
    have hv := valueWithin_canonical e.2 (maxDepth - 1) (canonicalMembers_iff.1 hcanonical.2 _ hm)
      (isFloatFreeMembers_iff.1 hfloat _ hm) (depthMembers_le_iff.1 (Nat.le_of_succ_le_succ hdepth) _ hm)
    simp [hv]
  calc (ofMap m).valueMap?
    _ = (m.entries.mapM fun e => (valueWithin (maxDepth - 1) e.2).map (e.1, ·)).bind fun pairs =>
        some (.ofList pairs) := rfl
    _ = some (.ofList m.entries) := by rw [hentries, Option.bind_some]
    _ = some m := congrArg some m.ofList_entries

end Dataflow.Json
