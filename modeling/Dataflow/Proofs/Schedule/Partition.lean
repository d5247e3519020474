import Dataflow.Proofs.Schedule.Tier
/-!
# Tiers divide any list of nodes

Whatever is listed, in whatever order and however often, tiers neither lose a node nor invent one,
none of them is empty, and a node always finds the tier that it is put into (`tiers_partition`).

A node that is listed again overwrites the tier that it had. The invariant is `Gapless`: the tiers
on record are there, and none is empty. The next node comes at most one tier behind them.
-/

namespace Dataflow.Graph

variable {g : Graph} {id : String} {n : Nat} {placed : List (String × Nat)} {tiers : List (List String)}

/-! ## One more node -/

theorem foldl_max_mem (l : List Nat) (n : Nat) : l.foldl max n = n ∨ l.foldl max n ∈ l := by
  induction l generalizing n with
  | nil => exact .inl rfl
  | cons a l ih =>
    rcases ih (max n a) with h | h
    · rcases Nat.le_total n a with hle | hle
      · exact .inr (List.mem_cons.2 (.inl (h.trans (Nat.max_eq_right hle))))
      · exact .inl (h.trans (Nat.max_eq_left hle))
    · exact .inr (List.mem_cons_of_mem _ h)

/-- A node comes into the first tier, or right behind the tier of a node that feeds it. -/
theorem tierOf_cases (g : Graph) (placed : List (String × Nat)) (id : String) :
    g.tierOf placed id = 0 ∨
      ∃ c ∈ g.connections, c.target.node = id ∧
        ∃ k, placed.lookup c.source.node = some k ∧ g.tierOf placed id = k + 1 := by
  refine (foldl_max_mem _ 0).imp_right fun h => ?_
  obtain ⟨c, hc, hk⟩ := List.mem_filterMap.1 h
  obtain ⟨k, hlookup, hk⟩ := Option.map_eq_some_iff.1 hk
  obtain ⟨hmem, htarget⟩ := List.mem_filter.1 hc
  exact ⟨c, hmem, of_decide_eq_true htarget, k, hlookup, hk.symm⟩

/-- A node is added to the tier that has its number, after empty tiers are added up to that one. -/
theorem addToTier_eq_set (id : String) (n : Nat) (tiers : List (List String)) :
    addToTier id n tiers = (tiers.rightpad (n + 1) []).set n (tiers.getD n [] ++ [id]) := by
  fun_induction addToTier id n tiers <;> simp_all [List.rightpad, List.replicate_succ]

theorem getElem?_rightpad_succ (n : Nat) (tiers : List (List String)) :
    (tiers.rightpad (n + 1) [])[n]? = some (tiers.getD n []) := by
  rcases Nat.lt_or_ge n tiers.length with h | h
  · rw [List.rightpad, List.getElem?_append_left h]
    simp [List.getD, h]
  · have hlt : n - tiers.length < n + 1 - tiers.length := by omega
    rw [List.rightpad, List.getElem?_append_right h]
    simp [List.getD, h, hlt]

/-! ## No gap opens -/

/-- The tiers on record are there, and none is empty. -/
structure Gapless (placed : List (String × Nat)) (tiers : List (List String)) : Prop where
  recorded : ∀ e ∈ placed, e.2 < tiers.length
  nonempty : ∀ tier ∈ tiers, tier ≠ []

theorem Gapless.tierOf_le (h : Gapless placed tiers) (g : Graph) (id : String) :
    g.tierOf placed id ≤ tiers.length := by
  rcases g.tierOf_cases placed id with h0 | ⟨c, -, -, k, hlookup, hk⟩
  · exact h0 ▸ Nat.zero_le _
  · exact hk ▸ h.recorded _ (mem_of_lookup hlookup)

theorem length_addToTier (id : String) (n : Nat) (tiers : List (List String)) :
    (addToTier id n tiers).length = max (n + 1) tiers.length := by
  rw [addToTier_eq_set, List.length_set, List.length_rightpad]

theorem nonempty_addToTier (hn : n ≤ tiers.length) (h : ∀ tier ∈ tiers, tier ≠ []) :
    ∀ tier ∈ addToTier id n tiers, tier ≠ [] := by
  fun_induction addToTier id n tiers with
  | case1 => simp
  | case2 n ih => simp at hn
  | case3 t rest => simpa using fun tier ht => h tier (List.mem_cons_of_mem _ ht)
  | case4 n t rest ih =>
    have hrest := ih (by simpa using hn) fun tier ht => h tier (List.mem_cons_of_mem _ ht)
    simpa using ⟨h t List.mem_cons_self, hrest⟩

theorem Gapless.place (h : Gapless placed tiers) (g : Graph) (id : String) :
    Gapless ((id, g.tierOf placed id) :: placed) (addToTier id (g.tierOf placed id) tiers) where
  recorded := by
    rw [length_addToTier]
    intro e he
    rcases List.mem_cons.1 he with rfl | he
    · exact Nat.lt_of_lt_of_le (Nat.lt_succ_self _) (Nat.le_max_left _ _)
    · exact Nat.lt_of_lt_of_le (h.recorded e he) (Nat.le_max_right _ _)
  nonempty := nonempty_addToTier (h.tierOf_le g id) h.nonempty

theorem tiersFrom_append (placed : List (String × Nat)) (tiers : List (List String)) (front back : List String) :
    g.tiersFrom placed tiers (front ++ back) =
      g.tiersFrom ((g.ranksFrom placed front).reverse ++ placed) (g.tiersFrom placed tiers front) back := by
  induction front generalizing placed tiers with
  | nil => rfl
  | cons id rest ih => simp [tiersFrom, ranksFrom, ih]

theorem Gapless.tiersFrom (h : Gapless placed tiers) (order : List String) :
    Gapless ((g.ranksFrom placed order).reverse ++ placed) (g.tiersFrom placed tiers order) := by
  induction order generalizing placed tiers with
  | nil => exact h
  | cons id rest ih => simpa [Graph.tiersFrom, ranksFrom] using ih (h.place g id)

theorem gapless_tiers (g : Graph) (order : List String) : Gapless (g.ranks order).reverse (g.tiers order) := by
  have h : Gapless [] [] := ⟨fun _ => List.not_mem_nil.elim, fun _ => List.not_mem_nil.elim⟩
  simpa only [ranks, tiers, List.append_nil] using h.tiersFrom (g := g) order

/-! ## The tiers of a list -/

/-- The tier of a node that is listed behind `front`. -/
def nextTier (g : Graph) (front : List String) (id : String) : Nat := g.tierOf (g.ranks front).reverse id

theorem nextTier_le (g : Graph) (front : List String) (id : String) : g.nextTier front id ≤ (g.tiers front).length :=
  (gapless_tiers g front).tierOf_le g id

theorem tiers_concat (g : Graph) (front : List String) (id : String) :
    g.tiers (front ++ [id]) = addToTier id (g.nextTier front id) (g.tiers front) := by
  simp [tiers, tiersFrom_append, tiersFrom, nextTier, ranks]

theorem exists_getD_eq {tier : List String} (h : tier ∈ tiers) : ∃ k < tiers.length, tiers.getD k [] = tier := by
  obtain ⟨k, hk, rfl⟩ := List.getElem_of_mem h
  exact ⟨k, hk, List.getD_eq_getElem _ _ hk⟩

/-- A tier lists nodes in the order in which they are listed. -/
theorem getD_tiers_sublist (g : Graph) (order : List String) (k : Nat) : ((g.tiers order).getD k []).Sublist order := by
  have h : ((g.ranks order).filter (·.2 = k)).Sublist (g.ranks order) := List.filter_sublist
  simpa only [getD_tiers, ranks, map_fst_ranksFrom] using h.map Prod.fst

/-- Any list is divided: a tier is a part of it in its order and not empty, the tiers have all
that is listed as often as it is listed, and each node is put into a tier that is there, after
the tiers have grown by one at most. -/
theorem tiers_partition (g : Graph) (order : List String) :
    (∀ tier ∈ g.tiers order, tier.Sublist order ∧ tier ≠ []) ∧
    (g.tiers order).flatten.Perm order ∧
    ∀ front id, front ++ [id] <+: order →
      g.nextTier front id ≤ (g.tiers front).length ∧
      ∃ tier, ((g.tiers front).rightpad (g.nextTier front id + 1) [])[g.nextTier front id]? = some tier ∧
        g.tiers (front ++ [id]) =
          ((g.tiers front).rightpad (g.nextTier front id + 1) []).set (g.nextTier front id) (tier ++ [id]) := by
  refine ⟨fun tier h => ⟨?_, (gapless_tiers g order).nonempty tier h⟩, flatten_tiers order, fun front id _ => ?_⟩
  · obtain ⟨k, -, rfl⟩ := exists_getD_eq h
    exact getD_tiers_sublist g order k
  · refine ⟨nextTier_le g front id, _, getElem?_rightpad_succ _ _, ?_⟩
    rw [tiers_concat, addToTier_eq_set]

theorem tiers_partition_circular :
    (ofEdges ["a", "b"] [("a", "b"), ("b", "a")]).tiers ["b", "a", "b", "x"] = [["b", "x"], ["a"], ["b"]] ∧
    ["b", "x"].Sublist ["b", "a", "b", "x"] ∧
    (ofEdges ["a", "b"] [("a", "b"), ("b", "a")]).nextTier ["b", "a"] "b" = 2 ∧
    2 ≤ ((ofEdges ["a", "b"] [("a", "b"), ("b", "a")]).tiers ["b", "a"]).length := by
  have h : (ofEdges ["a", "b"] [("a", "b"), ("b", "a")]).tiers ["b", "a", "b", "x"] = [["b", "x"], ["a"], ["b"]] := by
    decide
  have hnext : (ofEdges ["a", "b"] [("a", "b"), ("b", "a")]).nextTier ["b", "a"] "b" = 2 := by decide
  refine ⟨h, ((tiers_partition _ _).1 ["b", "x"] (by rw [h]; simp)).1, hnext, ?_⟩
  exact hnext ▸ ((tiers_partition _ ["b", "a", "b", "x"]).2.2 ["b", "a"] "b" ⟨["x"], rfl⟩).1

end Dataflow.Graph
