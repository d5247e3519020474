import Dataflow.Proofs.Run.Calls
import Dataflow.Proofs.Run.Tiered
/-!
# What a run by tiers calls

A tier admits a node exactly when no failure before its place was seen in the tiers before
(`admits_afterTiers`). Whatever feeds an admitted node was then admitted too and did not fail
(`source_completes`), and no node that the run in order comes to is ever shut out
(`callsInOrder_subset`).
-/

namespace Dataflow

open Session

namespace Progress

theorem admits_take {p : Progress} {id : String} {place x : Nat} {o : Outcome} :
    (p.take id place o).admits x ↔ p.admits x ∧ ∀ e, o = .error e → x < place := by
  cases o with
  | ok outputs => simp [take, admits]
  | error e =>
    unfold take
    cases hp : p.admits place with
    | true =>
      -- The new failure stands before the old one.
      cases hfail : p.failure? <;> simp_all [admits]
      omega
    | false =>
      cases hfail : p.failure? <;> simp_all [admits]
      omega

/-- A place stays admitted as long as no failure before it is taken in. -/
theorem admits_foldl_take {order : List String} {os : List (String × Outcome)} {p : Progress} {x : Nat} :
    (os.foldl (fun p (id, outcome) => p.take id (placeIn order id) outcome) p).admits x ↔
      p.admits x ∧ ∀ id e, (id, .error e) ∈ os → x < placeIn order id := by
  induction os generalizing p with
  | nil => simp
  | cons y rest ih =>
    obtain ⟨id, o⟩ := y
    rw [List.foldl_cons, ih, admits_take, and_assoc]
    simp only [List.mem_cons, Prod.mk.injEq]
    grind

end Progress

namespace Graph

variable {g : Graph} {r : Registry} {order : List String}

/-! ## Runs in order -/

/-- The calls of a run in order. -/
def callsInOrder (g : Graph) (r : Registry) (results : Results) : List String → List Call
  | [] => []
  | id :: rest =>
    g.callsOf r results id ++
      match g.outcome r results id with
      | .ok outputs => callsInOrder g r (results.insert id outputs) rest
      | .error _ => []

theorem makes_runInOrderFrom (hr : r.Stateless) (results : Results) (order : List String) (s : Session) :
    Makes (g.runInOrderFrom r results order) s (g.callsInOrder r results order) := by
  induction order generalizing results s with
  | nil => exact makes_pure _ s
  | cons id rest ih =>
    refine makes_bind (makes_runNode results id s) ?_
    rw [runNode_fst hr]
    cases g.outcome r results id with
    | ok outputs => exact ih _ _
    | error e => exact makes_pure _ _

theorem mem_callsInOrder {results : Results} {c : Call} :
    c ∈ g.callsInOrder r results order ↔
      ∃ front id back before, order = front ++ id :: back ∧ g.evaluate r results front = .ok before ∧
        c ∈ g.callsOf r before id := by
  induction order generalizing results with
  | nil => simp [callsInOrder]
  | cons first rest ih =>
    unfold callsInOrder
    constructor
    · intro h
      rcases List.mem_append.1 h with h | h
      · exact ⟨[], first, rest, results, rfl, rfl, h⟩
      · cases ho : g.outcome r results first with
        | error e => simp [ho] at h
        | ok outputs =>
          rw [ho] at h
          obtain ⟨front, id, back, before, rfl, hfront, hc⟩ := ih.1 h
          exact ⟨first :: front, id, back, before, rfl, evaluate_cons_ok.2 ⟨outputs, ho, hfront⟩, hc⟩
    · rintro ⟨front, id, back, before, happ, hfront, hc⟩
      cases front with
      | nil =>
        cases happ
        cases hfront
        exact List.mem_append_left _ hc
      | cons x front =>
        cases happ
        obtain ⟨outputs, ho, hfront⟩ := evaluate_cons_ok.1 hfront
        rw [ho]
        exact List.mem_append_right _ (ih.2 ⟨front, id, back, before, rfl, hfront, hc⟩)

/-! ## Who is admitted to a tier -/

/-- The nodes of the tier with number `k` that run when the run stands at `p`, as they are arranged. -/
def admitted (g : Graph) (arrangement : Arrangement) (order : List String) (p : Progress) (k : Nat) : List String :=
  arrangement.nodes (((g.tiers order).getD k []).filter fun id => p.admits (placeIn order id))

theorem mem_admitted {arrangement : Arrangement} {p : Progress} {k : Nat} {id : String} :
    id ∈ g.admitted arrangement order p k ↔ id ∈ (g.tiers order).getD k [] ∧ p.admits (placeIn order id) :=
  (arrangement.nodes_perm _).mem_iff.trans List.mem_filter

theorem nodup_admitted (hn : order.Nodup) (arrangement : Arrangement) (p : Progress) (k : Nat) :
    (g.admitted arrangement order p k).Nodup := by
  refine (arrangement.nodes_perm _).nodup_iff.2 (List.Nodup.filter _ ?_)
  have h := nodup_flatten_take (g := g) hn (k + 1)
  rw [flatten_take_succ] at h
  exact (List.nodup_append.1 h).2.1

/-- What the nodes give that run in the tier with number `k` of a run. -/
def outcomesOf (g : Graph) (r : Registry) (arrangement : Arrangement) (order : List String) (k : Nat) :
    SessionM (List (String × Outcome)) := do
  let p ← g.afterTiers r arrangement order k
  g.runAll r p.results (g.admitted arrangement order p k)

theorem map_fst_outcomesOf (arrangement : Arrangement) (k : Nat) (s : Session) :
    (g.outcomesOf r arrangement order k s).1.map Prod.fst =
      g.admitted arrangement order (g.afterTiers r arrangement order k s).1 k :=
  map_fst_runAll _ _ _

theorem exists_outcome {arrangement : Arrangement} {k : Nat} {s : Session} {id : String}
    (h : id ∈ g.admitted arrangement order (g.afterTiers r arrangement order k s).1 k) :
    ∃ o, (id, o) ∈ (g.outcomesOf r arrangement order k s).1 := by
  rw [← map_fst_outcomesOf] at h
  obtain ⟨⟨_, o⟩, ho, rfl⟩ := List.mem_map.1 h
  exact ⟨o, ho⟩

/-- A place is admitted to a tier exactly when all failures of the tiers before stand behind it. -/
theorem admits_afterTiers {arrangement : Arrangement} {k : Nat} {s : Session} {place : Nat} :
    (g.afterTiers r arrangement order k s).1.admits place ↔
      ∀ j < k, ∀ id e, (id, .error e) ∈ (g.outcomesOf r arrangement order j s).1 → place < placeIn order id := by
  induction k with
  | zero =>
    simp only [Nat.not_lt_zero, false_implies, implies_true, iff_true]
    rfl
  | succ k ih =>
    rw [afterTiers_succ, Session.bind_apply, Nat.forall_lt_succ_right, ← ih]
    refine Progress.admits_foldl_take.trans (and_congr_right fun _ => ?_)
    simp only [(arrangement.outcomes_perm _).mem_iff]
    rfl

/-- What feeds an admitted node ran in an earlier tier and did not fail: its failure would have
shut the node out. -/
theorem source_completes (hn : order.Nodup) (hf : g.Forward order) {arrangement : Arrangement} {k : Nat} {s : Session}
    {c : Connection} (hc : c ∈ g.connections)
    (ht : c.target.node ∈ g.admitted arrangement order (g.afterTiers r arrangement order k s).1 k)
    (hs : c.source.node ∈ order) :
    ∃ j < k, ∃ outputs, (c.source.node, .ok outputs) ∈ (g.outcomesOf r arrangement order j s).1 := by
  obtain ⟨htier, hadmits⟩ := mem_admitted.1 ht
  obtain ⟨j, hj, hsource⟩ := source_tier hn hf hc htier hs
  have htarget : c.target.node ∈ order := mem_of_mem_ranks (mem_getD_tiers.1 htier)
  have hlt : placeIn order c.source.node < placeIn order c.target.node := by
    rw [placeIn_eq hn, placeIn_eq hn]
    exact hf c hc hs htarget
  have hrest := admits_afterTiers.1 hadmits
  -- A failure that shuts out the producer stands before it, hence before the node, which was admitted.
  have hadmitted : (g.afterTiers r arrangement order j s).1.admits (placeIn order c.source.node) :=
    admits_afterTiers.2 fun i hi id e he => hlt.trans (hrest i (hi.trans hj) id e he)
  obtain ⟨o, ho⟩ := exists_outcome (mem_admitted.2 ⟨hsource, hadmitted⟩)
  cases o with
  | ok outputs => exact ⟨j, hj, outputs, ho⟩
  | error e => exact absurd (hrest j hj _ e ho) hlt.asymm

/-! ## Runs by tiers -/

/-- The calls of the tier with number `k` of a run. -/
def callsOfTier (g : Graph) (r : Registry) (arrangement : Arrangement) (order : List String) (s : Session) (k : Nat) :
    List Call :=
  let p := (g.afterTiers r arrangement order k s).1
  (g.admitted arrangement order p k).flatMap (g.callsOf r p.results)

theorem makes_afterTiers (arrangement : Arrangement) (s : Session) (k : Nat) :
    Makes (g.afterTiers r arrangement order k) s ((List.range k).flatMap (g.callsOfTier r arrangement order s)) := by
  induction k with
  | zero => exact makes_pure _ s
  | succ k ih =>
    rw [afterTiers_succ, List.range_succ, List.flatMap_append, List.flatMap_singleton]
    exact makes_bind ih (makes_runTier arrangement order _ _ _)

theorem makes_runByTiers (arrangement : Arrangement) (s : Session) :
    Makes (g.runByTiers r arrangement order) s
      ((List.range (g.tiers order).length).flatMap (g.callsOfTier r arrangement order s)) := by
  have h : Makes (g.afterTiers r arrangement order (g.tiers order).length) s _ := makes_afterTiers arrangement s _
  rw [afterTiers_length] at h
  rw [← List.append_nil (List.flatMap _ _)]
  refine makes_bind h ?_
  split
  · exact makes_pure _ _
  · exact makes_pure _ _

theorem map_instance_callsOf (hg : g.KeyedById) (results : Results) (id : String) :
    (g.callsOf r results id).map Call.instance? = [] ∨ (g.callsOf r results id).map Call.instance? = [some id] := by
  unfold callsOf
  cases hf : g.find r id with
  | error e => exact .inl rfl
  | ok found =>
    right
    simp [hg.id_eq (find_eq_ok_iff.1 hf).1]

theorem instance_of_mem_callsOf (hg : g.KeyedById) {results : Results} {id : String} {c : Call}
    (h : c ∈ g.callsOf r results id) : c.instance? = some id := by
  have hm := List.mem_map_of_mem (f := Call.instance?) h
  rcases map_instance_callsOf (r := r) hg results id with he | he
  · rw [he] at hm
    cases hm
  · rw [he] at hm
    exact List.mem_singleton.1 hm

theorem mem_callsOfTier {arrangement : Arrangement} {s : Session} {k : Nat} {c : Call} :
    c ∈ g.callsOfTier r arrangement order s k ↔
      ∃ id ∈ g.admitted arrangement order (g.afterTiers r arrangement order k s).1 k,
        c ∈ g.callsOf r (g.afterTiers r arrangement order k s).1.results id :=
  List.mem_flatMap

/-- No node is called twice: within a tier it is listed once, and it has one tier. -/
theorem nodup_instances (hg : g.KeyedById) (hn : order.Nodup) (arrangement : Arrangement) (s : Session) (n : Nat) :
    (((List.range n).flatMap (g.callsOfTier r arrangement order s)).map Call.instance?).Nodup := by
  rw [List.map_flatMap, List.nodup_flatMap]
  constructor
  · intro k _
    unfold callsOfTier
    rw [List.map_flatMap, List.nodup_flatMap]
    constructor
    · intro id _
      let results := (g.afterTiers r arrangement order k s).1.results
      rcases map_instance_callsOf (r := r) hg results id with h | h
      · exact h ▸ List.nodup_nil
      · exact h ▸ List.nodup_singleton _
    · refine (nodup_admitted hn arrangement _ k).pairwise_of_forall_ne fun a _ b _ hne x ha hb => hne ?_
      obtain ⟨c, hc, rfl⟩ := List.mem_map.1 ha
      obtain ⟨c', hc', he⟩ := List.mem_map.1 hb
      rw [instance_of_mem_callsOf hg hc, instance_of_mem_callsOf hg hc'] at he
      exact (Option.some.inj he).symm
  · refine List.nodup_range.pairwise_of_forall_ne fun j _ k _ hne x hj hk => hne ?_
    obtain ⟨c, hc, rfl⟩ := List.mem_map.1 hj
    obtain ⟨c', hc', he⟩ := List.mem_map.1 hk
    obtain ⟨a, ha, hca⟩ := mem_callsOfTier.1 hc
    obtain ⟨b, hb, hcb⟩ := mem_callsOfTier.1 hc'
    rw [instance_of_mem_callsOf hg hca, instance_of_mem_callsOf hg hcb] at he
    cases he
    exact tier_unique hn (mem_admitted.1 ha).1 (mem_admitted.1 hb).1

/-! ## Beside the run in order -/

theorem callsOf_congr (hg : g.KeyedById) {results results' : Results} {id : String}
    (h : ∀ c ∈ g.connections, c.target.node = id → results.get? c.source.node = results'.get? c.source.node) :
    g.callsOf r results id = g.callsOf r results' id := by
  unfold callsOf
  cases hf : g.find r id with
  | error e => rfl
  | ok found =>
    have hid := hg.id_eq (find_eq_ok_iff.1 hf).1
    simp only [gatherInputs_congr (hid ▸ h)]

/-- A node that the run in order comes to is admitted to its tier, and its tier brings it the same inputs. -/
theorem callsInOrder_subset (hr : r.Stateless) (hg : g.KeyedById) (hn : order.Nodup) (hf : g.Forward order)
    (arrangement : Arrangement) (s : Session) {c : Call} (hc : c ∈ g.callsInOrder r ∅ order) :
    ∃ k < (g.tiers order).length, c ∈ g.callsOfTier r arrangement order s k := by
  obtain ⟨front, id, back, before, happ, hfront, hcall⟩ := mem_callsInOrder.1 hc
  have hid : id ∈ order := by simp [happ]
  obtain ⟨k, hk⟩ := exists_tier (g := g) hid
  have hagrees := agrees_afterTiers hr hg hn hf arrangement s k
  -- Left are that the tier exists, that it admits the node, and that the inputs are the same.
  refine ⟨k, ?_, mem_callsOfTier.2 ⟨id, mem_admitted.2 ⟨hk, ?_⟩, ?_⟩⟩
  · by_contra hle
    rw [List.getD_eq_default _ _ (Nat.not_lt.1 hle)] at hk
    cases hk
  · have hnew : id ∉ ((g.tiers order).take k).flatten := by
      intro hm
      obtain ⟨j, hj, hid⟩ := mem_flatten_take.1 hm
      exact hj.ne (tier_unique hn hid hk)
    rw [placeIn_eq hn]
    -- What is shut out stands behind a failure, and the run in order does not come that far.
    by_contra hadmits
    exact hagrees.not_answers hnew (by simpa using hadmits) _ ⟨front, back, before, happ, hfront, rfl⟩
  · rw [← callsOf_congr hg fun c hc ht => ?_]
    · exact hcall
    · exact hagrees.results_eq hn hf happ
        (fun c hc ht hs => mem_flatten_take.2 (source_tier hn hf hc (ht ▸ hk) hs)) hfront hc ht

/-- A run in order that succeeds calls all nodes. -/
theorem mem_callsInOrder_of_ok (hg : g.KeyedById) (hn : order.Nodup) {results : Results}
    (h : g.evaluate r ∅ order = .ok results) {id : String} (hid : id ∈ order) :
    ∃ c ∈ g.callsInOrder r ∅ order, c.instance? = some id := by
  obtain ⟨outputs, ⟨front, back, before, happ, hfront, ho⟩, -⟩ := answers_of_mem hn h hid
  obtain ⟨node, plugin, hnode, hplugin, -⟩ := outcome_eq_ok_iff.1 ho
  have hcalls : g.callsOf r before id = [⟨some node.id, plugin.name, node.type, g.gatherInputs node before⟩] := by
    simp only [callsOf, find_eq_ok_iff.2 ⟨hnode, hplugin⟩]
  refine ⟨_, mem_callsInOrder.2 ⟨front, id, back, before, happ, hfront, hcalls ▸ List.mem_singleton_self _⟩, ?_⟩
  rw [hg.id_eq hnode]

/-- A run by tiers that succeeds calls exactly the nodes of the order. -/
theorem instances_perm (hr : r.Stateless) (hg : g.KeyedById) (hn : order.Nodup) (hf : g.Forward order)
    (arrangement : Arrangement) (s : Session) {results : Results} (hok : g.evaluate r ∅ order = .ok results) :
    (((List.range (g.tiers order).length).flatMap (g.callsOfTier r arrangement order s)).map Call.instance?).Perm
      (order.map some) := by
  -- Neither list repeats a node, so it is enough that they have the same members.
  rw [List.perm_ext_iff_of_nodup (nodup_instances hg hn arrangement s _) (hn.map fun _ _ h => Option.some.inj h)]
  intro x
  constructor
  · intro hx
    obtain ⟨c, hc, rfl⟩ := List.mem_map.1 hx
    obtain ⟨k, -, hck⟩ := List.mem_flatMap.1 hc
    obtain ⟨id, hid, hcall⟩ := mem_callsOfTier.1 hck
    rw [instance_of_mem_callsOf hg hcall]
    exact List.mem_map_of_mem (mem_of_mem_ranks (mem_getD_tiers.1 (mem_admitted.1 hid).1))
  · intro hx
    obtain ⟨id, hid, rfl⟩ := List.mem_map.1 hx
    obtain ⟨c, hc, hinst⟩ := mem_callsInOrder_of_ok hg hn hok hid
    obtain ⟨k, hk, hck⟩ := callsInOrder_subset hr hg hn hf arrangement s hc
    exact List.mem_map.2 ⟨c, List.mem_flatMap.2 ⟨k, List.mem_range.2 hk, hck⟩, hinst⟩

/-- What a run by tiers calls, whether it succeeds or fails, and however its tiers are arranged. No
node is called twice. A node is called only after all that feeds it has completed in earlier tiers.
Every call of the run in order is made too, with the same inputs, and a run that succeeds calls the
nodes of the order. A node behind a failure is called no later than in the tier of that failure. -/
theorem runByTiers_calls (hr : r.Stateless) (hg : g.KeyedById) (hn : order.Nodup) (hf : g.Forward order)
    (arrangement : Arrangement) (s : Session) :
    let tier := fun k => (g.tiers order).getD k []
    let before := fun k => g.afterTiers r arrangement order k s
    let outcomes := fun k => (g.outcomesOf r arrangement order k s).1
    ∃ calls : Nat → List Call,
      let all := (List.range (g.tiers order).length).flatMap calls
      (∀ k, Makes (g.runTier r arrangement order (before k).1 (tier k)) (before k).2 (calls k)) ∧
      Makes (g.runByTiers r arrangement order) s all ∧
      (all.map Call.instance?).Nodup ∧
      (∀ k, ∀ call ∈ calls k, ∃ id ∈ tier k, call.instance? = some id ∧
        ∀ c ∈ g.connections, c.target.node = id → c.source.node ∈ order →
          ∃ j < k, ∃ outputs, (c.source.node, .ok outputs) ∈ outcomes j) ∧
      (∀ s' inOrder, Makes (g.runInOrder r order) s' inOrder → inOrder ⊆ all) ∧
      (∀ results, (g.runByTiers r arrangement order s).1 = .ok results →
        (all.map Call.instance?).Perm (order.map some)) ∧
      ∀ k, ∀ call ∈ calls k, ∀ id, call.instance? = some id →
        ∀ j failed err, (failed, .error err) ∈ outcomes j → order.idxOf failed < order.idxOf id → k ≤ j := by
  intro tier before outcomes
  refine ⟨g.callsOfTier r arrangement order s, fun k => makes_runTier arrangement order _ _ _,
    makes_runByTiers arrangement s, nodup_instances hg hn arrangement s _, fun k call hcall => ?_, ?_, ?_, ?_⟩
  · obtain ⟨id, hid, hc⟩ := mem_callsOfTier.1 hcall
    refine ⟨id, (mem_admitted.1 hid).1, instance_of_mem_callsOf hg hc, fun c hc ht hs => ?_⟩
    exact source_completes hn hf hc (ht ▸ hid) hs
  · intro s' inOrder hmakes c hc
    cases hmakes.unique (makes_runInOrderFrom hr ∅ order s')
    obtain ⟨k, hk, hck⟩ := callsInOrder_subset hr hg hn hf arrangement s hc
    exact List.mem_flatMap.2 ⟨k, List.mem_range.2 hk, hck⟩
  · intro results hok
    rw [runByTiers_fst hr hg hn hf] at hok
    exact instances_perm hr hg hn hf arrangement s hok
  · intro k call hcall id hinst j failed err hfail hlt
    obtain ⟨id', hid, hc⟩ := mem_callsOfTier.1 hcall
    cases (instance_of_mem_callsOf hg hc).symm.trans hinst
    by_contra hle
    have hplace := admits_afterTiers.1 (mem_admitted.1 hid).2 j (Nat.lt_of_not_le hle) failed err hfail
    rw [placeIn_eq hn, placeIn_eq hn] at hplace
    exact hplace.asymm hlt

/-- The node `f` fails. It stands before `t` in the order, but comes into a later tier. -/
theorem runByTiers_calls_late_failure :
    let g := ((ofEdges ["s", "t"] []).addNode (.named "f" "bad" "Start")).connect ⟨⟨"s", "out"⟩, ⟨"f", "in"⟩, .data⟩
    let r : Registry := ⟨(SortedMap.empty.insert "basic" .gathering).insert "bad" .failing⟩
    let order := ["s", "f", "t"]
    let s := Session.ofSupply default
    (g.runByTiers r .listed order s).1 = .error (.nodeFailed "f" (.nodeFailed "Start" "out of order")) ∧
    ∃ calls : Nat → List Call,
      Makes (g.runByTiers r .listed order) s (calls 0 ++ calls 1) ∧
      ((calls 0 ++ calls 1).map Call.instance?).Nodup ∧
      ∀ inOrder, Makes (g.runInOrder r order) s inOrder → inOrder ⊆ calls 0 ++ calls 1 := by
  intro g r order s
  have hr : r.Stateless := Registry.gathering_stateless.insert "bad" Plugin.failing_stateless
  have hg : g.KeyedById := by unfold KeyedById; decide
  have hf : g.Forward order := by unfold Forward; decide
  have hall : ∀ calls : Nat → List Call, (List.range (g.tiers order).length).flatMap calls = calls 0 ++ calls 1 := by
    have hlength : (g.tiers order).length = 2 := by decide
    simp [hlength, List.range_succ]
  obtain ⟨calls, -, hmakes, hnodup, -, hinOrder, -⟩ := runByTiers_calls hr hg (by decide) hf .listed s
  simp only [hall] at hmakes hnodup hinOrder
  exact ⟨rfl, calls, hmakes, hnodup, hinOrder s⟩

end Graph

end Dataflow
