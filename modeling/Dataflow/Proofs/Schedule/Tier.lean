import Dataflow.Proofs.Schedule.Order
import Dataflow.Schedule.Tier
import Mathlib.Data.List.GetD
import Mathlib.Data.List.Nodup
/-!
# Tiers keep the nodes and separate producers from consumers

`Graph.ranks` lists the tier of every node of an order. A tier is made of the nodes of its rank
(`getD_tiers`), so that nothing is lost (`flatten_tiers`), and in an order in which producers
precede consumers a producer has the lower rank (`rank_lt`).
-/

namespace Dataflow.Graph

variable {g : Graph}

/-! ## Filling tiers -/

theorem getD_addToTier (id : String) (n k : Nat) (tiers : List (List String)) :
    (addToTier id n tiers).getD k [] = tiers.getD k [] ++ if k = n then [id] else [] := by
  fun_induction addToTier id n tiers generalizing k <;> cases k <;> simp_all

theorem flatten_addToTier (id : String) (n : Nat) (tiers : List (List String)) :
    (addToTier id n tiers).flatten.Perm (id :: tiers.flatten) := by
  fun_induction addToTier id n tiers with
  | case1 => exact .refl _
  | case2 n ih => exact ih
  | case3 t rest =>
    simp only [List.flatten_cons, List.append_assoc]
    exact List.perm_middle
  | case4 n t rest ih =>
    simp only [List.flatten_cons]
    exact (ih.append_left t).trans List.perm_middle

/-- No node is lost, and none comes in. -/
theorem flatten_tiersFrom (placed : List (String × Nat)) (tiers : List (List String)) (order : List String) :
    (g.tiersFrom placed tiers order).flatten.Perm (tiers.flatten ++ order) := by
  induction order generalizing placed tiers with
  | nil => simp [tiersFrom]
  | cons id rest ih =>
    unfold tiersFrom
    refine (ih _ _).trans (((flatten_addToTier id _ tiers).append_right rest).trans ?_)
    exact List.perm_middle.symm

theorem flatten_tiers (order : List String) : (g.tiers order).flatten.Perm order :=
  flatten_tiersFrom [] [] order

/-! ## Ranks -/

/-- The nodes of an order with their tiers, given the tiers of the nodes before. -/
def ranksFrom (g : Graph) (placed : List (String × Nat)) : List String → List (String × Nat)
  | [] => []
  | id :: rest => (id, g.tierOf placed id) :: ranksFrom g ((id, g.tierOf placed id) :: placed) rest

/-- The nodes of an order with their tiers. -/
def ranks (g : Graph) (order : List String) : List (String × Nat) := g.ranksFrom [] order

theorem map_fst_ranksFrom (placed : List (String × Nat)) (order : List String) :
    (g.ranksFrom placed order).map Prod.fst = order := by
  induction order generalizing placed with
  | nil => rfl
  | cons id rest ih => exact congrArg (id :: ·) (ih _)

theorem getD_tiersFrom (placed : List (String × Nat)) (tiers : List (List String)) (order : List String) (k : Nat) :
    (g.tiersFrom placed tiers order).getD k [] =
      tiers.getD k [] ++ ((g.ranksFrom placed order).filter (·.2 = k)).map Prod.fst := by
  induction order generalizing placed tiers with
  | nil => simp [tiersFrom, ranksFrom]
  | cons id rest ih =>
    unfold tiersFrom ranksFrom
    rw [ih, getD_addToTier, List.append_assoc]
    by_cases hk : k = g.tierOf placed id <;> simp [hk, eq_comm]

/-- A tier lists the nodes of its rank, in their order. -/
theorem getD_tiers (order : List String) (k : Nat) :
    (g.tiers order).getD k [] = ((g.ranks order).filter (·.2 = k)).map Prod.fst :=
  getD_tiersFrom [] [] order k

theorem mem_getD_tiers {order : List String} {id : String} {k : Nat} :
    id ∈ (g.tiers order).getD k [] ↔ (id, k) ∈ g.ranks order := by
  rw [getD_tiers]
  simp

theorem ranksFrom_append (placed : List (String × Nat)) (front back : List String) :
    g.ranksFrom placed (front ++ back) =
      g.ranksFrom placed front ++ g.ranksFrom ((g.ranksFrom placed front).reverse ++ placed) back := by
  induction front generalizing placed with
  | nil => rfl
  | cons id rest ih => simp [ranksFrom, ih]

theorem le_foldl_max (l : List Nat) (n : Nat) : n ≤ l.foldl max n ∧ ∀ m ∈ l, m ≤ l.foldl max n := by
  induction l generalizing n with
  | nil => simp
  | cons a l ih =>
    obtain ⟨hn, hl⟩ := ih (max n a)
    refine ⟨(Nat.le_max_left n a).trans hn, fun m hm => ?_⟩
    rcases List.mem_cons.1 hm with rfl | hm
    · exact (Nat.le_max_right n m).trans hn
    · exact hl m hm

/-- A node comes into a later tier than one before it that feeds it. -/
theorem lt_tierOf {placed : List (String × Nat)} {c : Connection} {k : Nat} (hc : c ∈ g.connections)
    (h : placed.lookup c.source.node = some k) : k < g.tierOf placed c.target.node := by
  refine (le_foldl_max _ 0).2 (k + 1) (List.mem_filterMap.2 ⟨c, ?_, by simp [h]⟩)
  simp [incoming, hc]

theorem mem_of_mem_ranks {order : List String} {id : String} {k : Nat} (h : (id, k) ∈ g.ranks order) :
    id ∈ order :=
  map_fst_ranksFrom (g := g) [] order ▸ List.mem_map_of_mem h

/-- A node of an order without repetition has one rank. -/
theorem rank_unique {order : List String} (hn : order.Nodup) {id : String} {j k : Nat}
    (hj : (id, j) ∈ g.ranks order) (hk : (id, k) ∈ g.ranks order) : j = k := by
  have hkeys : ((g.ranks order).map Prod.fst).Nodup := by rwa [ranks, map_fst_ranksFrom]
  exact Option.some.inj ((lookup_eq_some_of_mem hkeys hj).symm.trans (lookup_eq_some_of_mem hkeys hk))

/-- A producer has a lower rank than its consumers. -/
theorem rank_lt {order : List String} (hn : order.Nodup) (hf : g.Forward order) {c : Connection}
    (hc : c ∈ g.connections) {j k : Nat} (hj : (c.source.node, j) ∈ g.ranks order)
    (hk : (c.target.node, k) ∈ g.ranks order) : j < k := by
  obtain ⟨front, back, rfl⟩ := List.append_of_mem (mem_of_mem_ranks hk)
  let placed := (g.ranksFrom [] front).reverse ++ []
  have hsplit : g.ranks (front ++ c.target.node :: back) =
      g.ranksFrom [] front ++ (c.target.node, g.tierOf placed c.target.node) :: g.ranksFrom _ back :=
    ranksFrom_append [] front _
  have hk' : k = g.tierOf placed c.target.node := rank_unique hn hk (by simp [hsplit])
  -- The producer stands in front, so its rank is one of those that the rank of its consumer exceeds.
  have hsource : c.source.node ∈ (g.ranksFrom [] front).map Prod.fst := by
    rw [map_fst_ranksFrom]
    exact hf.mem_front hn hc rfl (mem_of_mem_ranks hj)
  obtain ⟨⟨a, i⟩, hi, rfl⟩ := List.mem_map.1 hsource
  have hij : i = j := rank_unique hn (by simp [hsplit, hi]) hj
  have hplaced : (placed.map Prod.fst).Nodup := by
    simpa [placed, map_fst_ranksFrom, List.nodup_reverse] using (List.nodup_append.1 hn).1
  have hlookup : placed.lookup c.source.node = some i := lookup_eq_some_of_mem hplaced (by simpa [placed] using hi)
  rw [hk', ← hij]
  exact lt_tierOf hc hlookup

/-! ## Earlier tiers -/

theorem exists_tier {order : List String} {id : String} (h : id ∈ order) : ∃ k, id ∈ (g.tiers order).getD k [] := by
  rw [← map_fst_ranksFrom (g := g) [] order] at h
  obtain ⟨⟨_, k⟩, hk, rfl⟩ := List.mem_map.1 h
  exact ⟨k, mem_getD_tiers.2 hk⟩

theorem tier_unique {order : List String} (hn : order.Nodup) {id : String} {j k : Nat}
    (hj : id ∈ (g.tiers order).getD j []) (hk : id ∈ (g.tiers order).getD k []) : j = k :=
  rank_unique hn (mem_getD_tiers.1 hj) (mem_getD_tiers.1 hk)

/-- What feeds a node stands in one of the tiers before its own. -/
theorem source_tier {order : List String} (hn : order.Nodup) (hf : g.Forward order) {c : Connection}
    (hc : c ∈ g.connections) {k : Nat} (ht : c.target.node ∈ (g.tiers order).getD k []) (hs : c.source.node ∈ order) :
    ∃ j < k, c.source.node ∈ (g.tiers order).getD j [] := by
  obtain ⟨j, hj⟩ := exists_tier (g := g) hs
  exact ⟨j, rank_lt hn hf hc (mem_getD_tiers.1 hj) (mem_getD_tiers.1 ht), hj⟩

theorem flatten_take_succ (order : List String) (k : Nat) :
    ((g.tiers order).take (k + 1)).flatten = ((g.tiers order).take k).flatten ++ (g.tiers order).getD k [] := by
  rw [List.take_add_one, List.flatten_append]
  cases h : (g.tiers order)[k]? <;> simp [List.getD, h]

theorem mem_flatten_take {order : List String} {id : String} {k : Nat} :
    id ∈ ((g.tiers order).take k).flatten ↔ ∃ j < k, id ∈ (g.tiers order).getD j [] := by
  induction k with
  | zero => simp
  | succ k ih =>
    rw [flatten_take_succ, List.mem_append, ih, Nat.exists_lt_succ_right]

theorem nodup_flatten_take {order : List String} (hn : order.Nodup) (k : Nat) :
    ((g.tiers order).take k).flatten.Nodup := by
  have hall : ((g.tiers order).take k ++ (g.tiers order).drop k).flatten.Nodup := by
    rw [List.take_append_drop]
    exact (flatten_tiers order).nodup_iff.2 hn
  rw [List.flatten_append] at hall
  exact (List.nodup_append.1 hall).1

end Dataflow.Graph
