import Dataflow.Proofs.Schedule.Partition
import Mathlib.Data.List.Forall2
import Mathlib.Order.Bounds.Basic
/-!
# Tiers are lengths of longest paths

In an order in which producers precede consumers, the tier of a node is the length of the longest
path through listed nodes that ends at it (`tiers_longest`). The paths say nothing about the order,
so that all such orders of the same nodes have the same tiers.

A node of a later tier has a producer in the tier before it, which makes a path of that length
(`exists_path_of_rank`); along any path the tiers increase, which makes it the longest
(`length_le_of_rank`).
-/

namespace Dataflow.Graph

variable {g : Graph} {order path : List String} {id : String} {k : Nat}

/-! ## Paths -/

/-- A path along connections, all through listed nodes. -/
structure IsPath (g : Graph) (listed path : List String) : Prop where
  chain : path.IsChain g.Joins
  listed : ∀ id ∈ path, id ∈ listed

/-- How many connections the paths have that end at a node. -/
def pathLengths (g : Graph) (listed : List String) (id : String) : Set Nat :=
  {n | ∃ path, g.IsPath listed path ∧ path.getLast? = some id ∧ path.length = n + 1}

/-- How many nodes the paths have. -/
def pathSizes (g : Graph) (listed : List String) : Set Nat :=
  {n | ∃ path, g.IsPath listed path ∧ path.length = n}

theorem IsPath.concat {last : String} (h : g.IsPath order path) (hl : path.getLast? = some last)
    (hj : g.Joins last id) (hid : id ∈ order) : g.IsPath order (path ++ [id]) where
  chain := List.isChain_append.2 ⟨h.chain, .singleton _, by simpa [hl] using hj⟩
  listed := by simpa [or_imp, forall_and] using ⟨h.listed, hid⟩

/-- Which paths there are depends on what is listed, not on the order. -/
theorem isPath_congr {listed : List String} (hm : ∀ id, id ∈ order ↔ id ∈ listed) :
    g.IsPath order = g.IsPath listed := by
  funext path
  exact propext ⟨fun h => ⟨h.chain, fun id hid => (hm id).1 (h.listed id hid)⟩,
    fun h => ⟨h.chain, fun id hid => (hm id).2 (h.listed id hid)⟩⟩

/-- Where producers precede consumers, a path passes no node twice. -/
theorem IsPath.nodup (h : g.IsPath order path) (hf : g.Forward order) : path.Nodup := by
  have hlt : (path.map order.idxOf).IsChain (· < ·) := by
    rw [List.isChain_map]
    refine List.IsChain.imp_of_mem_imp ?_ h.chain
    rintro a b ha hb ⟨c, hc, rfl, rfl⟩
    exact hf c hc (h.listed _ ha) (h.listed _ hb)
  exact List.Nodup.of_map _ (hlt.pairwise.imp Nat.ne_of_lt)

/-! ## Ranks and paths -/

/-- A node has the rank that it gets behind the nodes in front of it. -/
theorem exists_front_of_rank (h : (id, k) ∈ g.ranks order) :
    ∃ front back, order = front ++ id :: back ∧ k = g.nextTier front id := by
  obtain ⟨before, after, hsplit⟩ := List.append_of_mem h
  have horder : order = before.map Prod.fst ++ id :: after.map Prod.fst := by
    rw [← map_fst_ranksFrom (g := g) [] order]
    change (g.ranks order).map Prod.fst = _
    simp [hsplit]
  refine ⟨before.map Prod.fst, after.map Prod.fst, horder, ?_⟩
  have hranks := ranksFrom_append (g := g) [] (before.map Prod.fst) (id :: after.map Prod.fst)
  rw [← horder] at hranks
  have hlength : before.length = (g.ranksFrom [] (before.map Prod.fst)).length := by
    simpa using (congrArg List.length (map_fst_ranksFrom (g := g) [] (before.map Prod.fst))).symm
  obtain ⟨-, htail⟩ := List.append_inj (hsplit.symm.trans hranks) hlength
  simpa [ranksFrom, nextTier, ranks] using congrArg (·.head?) htail

/-- A node that is not in the first tier has a producer in the tier before its own. -/
theorem exists_source_of_rank (h : (id, k + 1) ∈ g.ranks order) :
    ∃ c ∈ g.connections, c.target.node = id ∧ (c.source.node, k) ∈ g.ranks order := by
  obtain ⟨front, back, rfl, hk⟩ := exists_front_of_rank h
  rcases g.tierOf_cases (g.ranks front).reverse id with h0 | ⟨c, hc, ht, j, hlookup, hj⟩
  · cases hk.trans h0
  · have hjk : k = j := Nat.succ.inj (hk.trans hj)
    have hfront : (c.source.node, j) ∈ g.ranks front := List.mem_reverse.1 (mem_of_lookup hlookup)
    refine ⟨c, hc, ht, hjk ▸ ?_⟩
    rw [ranks, ranksFrom_append]
    exact List.mem_append_left _ hfront

theorem exists_path_of_rank (h : (id, k) ∈ g.ranks order) :
    ∃ path, g.IsPath order path ∧ path.getLast? = some id ∧ path.length = k + 1 := by
  induction k generalizing id with
  | zero => exact ⟨[id], ⟨.singleton _, by simpa using mem_of_mem_ranks h⟩, rfl, rfl⟩
  | succ k ih =>
    obtain ⟨c, hc, rfl, hs⟩ := exists_source_of_rank h
    obtain ⟨path, hp, hl, hlength⟩ := ih hs
    exact ⟨path ++ [c.target.node], hp.concat hl ⟨c, hc, rfl, rfl⟩ (mem_of_mem_ranks h), by simp, by simp [hlength]⟩

/-- Each step of a path goes to a higher rank. -/
theorem length_le_of_rank (hn : order.Nodup) (hf : g.Forward order) (hp : g.IsPath order path)
    (hl : path.getLast? = some id) (h : (id, k) ∈ g.ranks order) : path.length ≤ k + 1 := by
  induction path using List.reverseRecOn generalizing id k with
  | nil => exact Nat.zero_le _
  | append_singleton front last ih =>
    obtain rfl : last = id := by simpa using hl
    obtain ⟨hchain, -, hjoin⟩ := List.isChain_append.1 hp.chain
    have hfront : g.IsPath order front := ⟨hchain, fun id hid => hp.listed id (List.mem_append_left _ hid)⟩
    cases hsource : front.getLast? with
    | none => simp [List.getLast?_eq_none_iff.1 hsource]
    | some source =>
      obtain ⟨c, hc, rfl, rfl⟩ := hjoin source hsource last rfl
      obtain ⟨j, hj⟩ := exists_tier (g := g) (hfront.listed _ (List.mem_of_getLast? hsource))
      have hlt := rank_lt hn hf hc (mem_getD_tiers.1 hj) h
      have hle := ih hfront hsource (mem_getD_tiers.1 hj)
      rw [List.length_append, List.length_singleton]
      omega

/-- The rank of a node is the length of the longest path to it. -/
theorem isGreatest_of_rank (hn : order.Nodup) (hf : g.Forward order) (h : (id, k) ∈ g.ranks order) :
    IsGreatest (g.pathLengths order id) k := by
  refine ⟨exists_path_of_rank h, ?_⟩
  rintro n ⟨path, hp, hl, hlength⟩
  have hle := length_le_of_rank hn hf hp hl h
  omega

/-! ## Tiers and paths -/

theorem mem_getD_tiers_iff (hn : order.Nodup) (hf : g.Forward order) :
    id ∈ (g.tiers order).getD k [] ↔ id ∈ order ∧ IsGreatest (g.pathLengths order id) k := by
  rw [mem_getD_tiers]
  refine ⟨fun h => ⟨mem_of_mem_ranks h, isGreatest_of_rank hn hf h⟩, fun ⟨hid, hk⟩ => ?_⟩
  obtain ⟨j, hj⟩ := exists_tier (g := g) hid
  have hrank := mem_getD_tiers.1 hj
  exact hk.unique (isGreatest_of_rank hn hf hrank) ▸ hrank

theorem lt_length_of_mem {tiers : List (List String)} (h : id ∈ tiers.getD k []) : k < tiers.length := by
  by_contra hk
  rw [List.getD_eq_default _ _ (Nat.le_of_not_lt hk)] at h
  cases h

theorem isGreatest_length_tiers (hn : order.Nodup) (hf : g.Forward order) :
    IsGreatest (g.pathSizes order) (g.tiers order).length := by
  constructor
  · rcases Nat.eq_zero_or_pos (g.tiers order).length with h0 | hpos
    · exact ⟨[], ⟨.nil, fun _ => List.not_mem_nil.elim⟩, h0.symm⟩
    · -- The last tier is not empty, and its nodes end paths through all tiers.
      have hlt : (g.tiers order).length - 1 < (g.tiers order).length := by omega
      have hne := (gapless_tiers g order).nonempty _ (List.getElem_mem hlt)
      rw [← List.getD_eq_getElem _ [] hlt] at hne
      obtain ⟨id, hid⟩ := List.exists_mem_of_ne_nil _ hne
      obtain ⟨path, hp, -, hlength⟩ := exists_path_of_rank (mem_getD_tiers.1 hid)
      exact ⟨path, hp, by omega⟩
  · rintro _ ⟨path, hp, rfl⟩
    cases hl : path.getLast? with
    | none => simp [List.getLast?_eq_none_iff.1 hl]
    | some id =>
      obtain ⟨k, hk⟩ := exists_tier (g := g) (hp.listed id (List.mem_of_getLast? hl))
      exact (length_le_of_rank hn hf hp hl (mem_getD_tiers.1 hk)).trans (lt_length_of_mem hk)

/-- Two orders of the same nodes have the same tiers, up to the order within a tier. -/
theorem tiers_perm {other : List String} (hn : order.Nodup) (hf : g.Forward order) (hn' : other.Nodup)
    (hf' : g.Forward other) (hm : ∀ id, id ∈ order ↔ id ∈ other) :
    List.Forall₂ List.Perm (g.tiers order) (g.tiers other) := by
  have hpaths := isPath_congr (g := g) hm
  refine List.forall₂_iff_get.2 ⟨?_, fun k hk hk' => ?_⟩
  · have hsize := isGreatest_length_tiers hn hf
    rw [pathSizes, hpaths] at hsize
    exact hsize.unique (isGreatest_length_tiers hn' hf')
  · simp only [List.get_eq_getElem, ← List.getD_eq_getElem _ [] hk, ← List.getD_eq_getElem _ [] hk']
    rw [List.perm_ext_iff_of_nodup ((getD_tiers_sublist g order k).nodup hn) ((getD_tiers_sublist g other k).nodup hn')]
    intro id
    rw [mem_getD_tiers_iff hn hf, mem_getD_tiers_iff hn' hf', pathLengths, hpaths, pathLengths, hm]

/-- A listed node stands in the tier whose number is the length of the longest path to it, and in
no other. So connections lead to later tiers, there are as many tiers as nodes on a longest path,
and another such order of the same nodes has the same tiers. No path passes a node twice. -/
theorem tiers_longest (g : Graph) (order : List String) (hn : order.Nodup) (hf : g.Forward order) :
    (∀ id ∈ order, ∃ n, IsGreatest (g.pathLengths order id) n ∧
      ∀ k, id ∈ (g.tiers order).getD k [] ↔ k = n) ∧
    (∀ c ∈ g.connections, ∀ j k, c.source.node ∈ (g.tiers order).getD j [] →
      c.target.node ∈ (g.tiers order).getD k [] → j < k) ∧
    IsGreatest (g.pathSizes order) (g.tiers order).length ∧
    (∀ path, g.IsPath order path → path.Nodup) ∧
    ∀ other : List String, other.Nodup → g.Forward other → (∀ id, id ∈ other ↔ id ∈ order) →
      List.Forall₂ List.Perm (g.tiers other) (g.tiers order) := by
  refine ⟨fun id hid => ?_, fun c hc j k hj hk => ?_, isGreatest_length_tiers hn hf, fun path h => h.nodup hf,
    fun other hn' hf' hm => tiers_perm hn' hf' hn hf hm⟩
  · obtain ⟨n, hmem⟩ := exists_tier (g := g) hid
    have hgreatest := ((mem_getD_tiers_iff hn hf).1 hmem).2
    refine ⟨n, hgreatest, fun k => ⟨fun hk => tier_unique hn hk hmem, fun hk => hk ▸ hmem⟩⟩
  · exact rank_lt hn hf hc (mem_getD_tiers.1 hj) (mem_getD_tiers.1 hk)

theorem tiers_longest_unlisted :
    (ofEdges ["s", "t", "e", "f"] [("s", "t"), ("t", "e"), ("t", "f"), ("s", "f"), ("x", "s")]).tiers
      ["s", "t", "e", "f"] = [["s"], ["t"], ["e", "f"]] ∧
    IsGreatest ((ofEdges ["s", "t", "e", "f"] [("s", "t"), ("t", "e"), ("t", "f"), ("s", "f"), ("x", "s")]).pathSizes
      ["s", "t", "e", "f"]) 3 ∧
    List.Forall₂ List.Perm
      ((ofEdges ["s", "t", "e", "f"] [("s", "t"), ("t", "e"), ("t", "f"), ("s", "f"), ("x", "s")]).tiers
        ["s", "t", "f", "e"]) [["s"], ["t"], ["e", "f"]] := by
  have h : (ofEdges ["s", "t", "e", "f"] [("s", "t"), ("t", "e"), ("t", "f"), ("s", "f"), ("x", "s")]).tiers
      ["s", "t", "e", "f"] = [["s"], ["t"], ["e", "f"]] := by decide
  obtain ⟨-, -, hsize, -, hother⟩ := tiers_longest
    (ofEdges ["s", "t", "e", "f"] [("s", "t"), ("t", "e"), ("t", "f"), ("s", "f"), ("x", "s")])
    ["s", "t", "e", "f"] (by decide) (by unfold Forward; decide)
  refine ⟨h, by simpa [h] using hsize, h ▸ hother ["s", "t", "f", "e"] (by decide) (by unfold Forward; decide) ?_⟩
  simp [or_comm, or_left_comm]

end Dataflow.Graph
