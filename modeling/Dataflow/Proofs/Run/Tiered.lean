import Dataflow.Proofs.Run.Sequential
import Dataflow.Proofs.Schedule.Tier
import Dataflow.Run.Tiered
/-!
# Running by tiers gives what running in order gives

`Agrees` ties a run by tiers to the run in order: of the nodes taken in so far, those that the
run in order completes have the same outputs in both, and the earliest failure stands no
earlier than the node where the run in order stops. Taking in an outcome keeps it, in any
order (`Agrees.take`), and so does a tier (`agrees_runTier`), so that it holds after each of the
tiers (`agrees_afterTiers`).
-/

namespace Dataflow.Graph

variable {g : Graph} {r : Registry} {order : List String}

/-! ## The turns of a run in order -/

/-- In a run in order the node comes to its turn and gives this outcome. -/
def Answers (g : Graph) (r : Registry) (order : List String) (id : String) (o : Outcome) : Prop :=
  ∃ front back before, order = front ++ id :: back ∧ g.evaluate r ∅ front = .ok before ∧
    g.outcome r before id = o

/-- The nodes of a first part that runs to its end come to their turns. -/
theorem answers_of_evaluate {front back : List String} (hn : (front ++ back).Nodup) {results : Results}
    (h : g.evaluate r ∅ front = .ok results) {id : String} (hid : id ∈ front) :
    ∃ outputs, g.Answers r (front ++ back) id (.ok outputs) ∧ results.get? id = some outputs := by
  obtain ⟨first, last, rfl⟩ := List.append_of_mem hid
  obtain ⟨before, outputs, hf, ho, hget⟩ := evaluate_split h (notMem_parts (List.nodup_append.1 hn).1).2
  exact ⟨outputs, ⟨first, last ++ back, before, by simp, hf, ho⟩, hget⟩

/-- In an order that runs to its end every node comes to its turn. -/
theorem answers_of_mem (hn : order.Nodup) {results : Results} (h : g.evaluate r ∅ order = .ok results) {id : String}
    (hid : id ∈ order) : ∃ outputs, g.Answers r order id (.ok outputs) ∧ results.get? id = some outputs := by
  have hn' : (order ++ []).Nodup := by rwa [List.append_nil]
  have ha := answers_of_evaluate hn' h hid
  rwa [List.append_nil] at ha

/-- Whatever stands before a node that comes to its turn has run without failing. -/
theorem Answers.before (hn : order.Nodup) {id id' : String} {o : Outcome} (h : g.Answers r order id' o)
    (hlt : order.idxOf id < order.idxOf id') : ∃ outputs, g.Answers r order id (.ok outputs) := by
  obtain ⟨front, back, before, rfl, hf, -⟩ := h
  obtain ⟨outputs, ha, -⟩ := answers_of_evaluate hn hf (mem_front_of_lt hn hlt)
  exact ⟨outputs, ha⟩

/-! ## Staying in step -/

/-- What holds of a run by tiers that has taken in the outcomes of some nodes of the order, or
passed them over. -/
structure Agrees (g : Graph) (r : Registry) (order taken : List String) (p : Progress) : Prop where
  results : ∀ id ∈ taken, ∀ outputs, g.Answers r order id (.ok outputs) → p.results.get? id = some outputs
  listed : ∀ id ∈ p.results.keys, id ∈ order
  failed : ∀ id ∈ taken, ∀ e, g.Answers r order id (.error e) → p.failure? = some (order.idxOf id, e)
  /-- The run in order comes no further than to the earliest failure. -/
  earliest : ∀ place e, p.failure? = some (place, e) → ∃ id ∈ taken, place = order.idxOf id ∧
    ∀ id' o, g.Answers r order id' o → order.idxOf id' < place ∨ (id' = id ∧ o = .error e)

namespace Agrees

variable {taken : List String} {p : Progress} {id : String}

theorem congr (h : g.Agrees r order taken p) {taken' : List String} (ht : ∀ id, id ∈ taken ↔ id ∈ taken') :
    g.Agrees r order taken' p where
  results id hid := h.results id ((ht id).2 hid)
  listed := h.listed
  failed id hid := h.failed id ((ht id).2 hid)
  earliest place e hp := by
    obtain ⟨id, hid, hall⟩ := h.earliest place e hp
    exact ⟨id, (ht id).1 hid, hall⟩

/-- A node behind the earliest failure does not come to its turn in the run in order. -/
theorem not_answers (h : g.Agrees r order taken p) (hid : id ∉ taken) (hp : p.admits (order.idxOf id) = false)
    (o : Outcome) : ¬ g.Answers r order id o := by
  intro ha
  unfold Progress.admits at hp
  split at hp
  · cases hp
  · rename_i place e hfail
    obtain ⟨first, hfirst, -, hall⟩ := h.earliest place e hfail
    rcases hall id o ha with hlt | ⟨rfl, -⟩
    · simp at hp
      omega
    · exact hid hfirst

/-- Nodes that do not come to their turn in the run in order may be passed over. -/
theorem pass (h : g.Agrees r order taken p) {ids : List String} (hids : ∀ id ∈ ids, ∀ o, ¬ g.Answers r order id o) :
    g.Agrees r order (ids ++ taken) p where
  results id hid outputs ha := h.results id ((List.mem_append.1 hid).resolve_left fun hm => hids id hm _ ha) outputs ha
  listed := h.listed
  failed id hid e ha := h.failed id ((List.mem_append.1 hid).resolve_left fun hm => hids id hm _ ha) e ha
  earliest place e hp := by
    obtain ⟨id, hid, hall⟩ := h.earliest place e hp
    exact ⟨id, List.mem_append_right _ hid, hall⟩

/-- Taking in the outputs of a node that gives the same in order. -/
theorem complete (h : g.Agrees r order taken p) (hid : id ∈ order) (hnew : id ∉ taken) {outputs : PortValues}
    (ho : ∀ o, g.Answers r order id o → o = .ok outputs) :
    g.Agrees r order (id :: taken) { p with results := p.results.insert id outputs } where
  results x hx outputs' ha := by
    rw [OrderedMap.get?_insert]
    rcases List.mem_cons.1 hx with rfl | hx
    · rw [if_pos rfl, Except.ok.inj (ho _ ha)]
    · rw [if_neg (ne_of_mem_of_not_mem hx hnew)]
      exact h.results x hx outputs' ha
  listed x hx := by
    rcases OrderedMap.mem_keys_insert.1 hx with rfl | hx
    · exact hid
    · exact h.listed x hx
  failed x hx e ha := by
    rcases List.mem_cons.1 hx with rfl | hx
    · cases ho _ ha
    · exact h.failed x hx e ha
  earliest place e hp := by
    obtain ⟨first, hfirst, hall⟩ := h.earliest place e hp
    exact ⟨first, List.mem_cons_of_mem _ hfirst, hall⟩

/-- Taking in a failure before which there is none yet. -/
theorem fail (hn : order.Nodup) (h : g.Agrees r order taken p) (hid : id ∈ order) {e : RunError}
    (ho : ∀ o, g.Answers r order id o → o = .error e) (hp : p.admits (order.idxOf id) = true) :
    g.Agrees r order (id :: taken) { p with failure? := some (order.idxOf id, e) } where
  results x hx outputs ha := by
    rcases List.mem_cons.1 hx with rfl | hx
    · cases ho _ ha
    · exact h.results x hx outputs ha
  listed := h.listed
  failed x hx e' ha := by
    rcases List.mem_cons.1 hx with rfl | hx
    · cases ho _ ha
      rfl
    · -- The run in order would stop at `x`, but the failing node stands before it.
      have hlt : order.idxOf id < order.idxOf x := by
        simpa [Progress.admits, h.failed x hx e' ha] using hp
      obtain ⟨outputs, hok⟩ := ha.before hn hlt
      cases ho _ hok
  earliest place e' hplace := by
    cases hplace
    refine ⟨id, List.mem_cons_self, rfl, fun x o ha => ?_⟩
    rcases Nat.lt_trichotomy (order.idxOf x) (order.idxOf id) with hlt | heq | hgt
    · exact .inl hlt
    · have hx : x = id := List.idxOf_inj hid |>.1 heq.symm |>.symm
      exact .inr ⟨hx, ho o (hx ▸ ha)⟩
    · obtain ⟨outputs, hok⟩ := ha.before hn hgt
      cases ho _ hok

theorem take (hn : order.Nodup) (h : g.Agrees r order taken p) (hid : id ∈ order) (hnew : id ∉ taken) {o : Outcome}
    (ho : ∀ o', g.Answers r order id o' → o' = o) : g.Agrees r order (id :: taken) (p.take id (order.idxOf id) o) := by
  unfold Progress.take
  cases o with
  | ok outputs => exact h.complete hid hnew ho
  | error e =>
    cases hp : p.admits (order.idxOf id) with
    | true =>
      simp only [if_true]
      exact h.fail hn hid ho hp
    | false =>
      simp only [Bool.false_eq_true, if_false]
      have hpass : g.Agrees r order ([id] ++ taken) p := by
        refine h.pass fun x hx => ?_
        rw [List.mem_singleton.1 hx]
        exact h.not_answers hnew hp
      exact hpass

end Agrees

/-! ## Places -/

theorem lastPlace?_eq {id : String} {order : List String} (hn : order.Nodup) (start : Nat) :
    lastPlace? id start order = if id ∈ order then some (start + order.idxOf id) else none := by
  induction order generalizing start with
  | nil => rfl
  | cons x rest ih =>
    obtain ⟨hx, hrest⟩ := List.nodup_cons.1 hn
    unfold lastPlace?
    rw [ih hrest]
    by_cases hid : id ∈ rest
    · have hne : x ≠ id := fun e => hx (e ▸ hid)
      simp only [hid, if_true, List.mem_cons, or_true, List.idxOf_cons_ne _ hne, Option.some.injEq]
      omega
    · by_cases he : x = id
      · subst he
        simp [hid]
      · have hne : id ≠ x := fun e => he e.symm
        simp [hid, he, hne]

/-- Without repetition the place of a node is where it stands. -/
theorem placeIn_eq (hn : order.Nodup) (id : String) : placeIn order id = order.idxOf id := by
  unfold placeIn
  rw [lastPlace?_eq hn]
  split
  · simp
  · rename_i h
    simp [List.idxOf_eq_length h]

/-! ## Tiers -/

theorem map_fst_runAll (results : Results) (ids : List String) (s : Session) :
    (g.runAll r results ids s).1.map Prod.fst = ids := by
  induction ids generalizing s with
  | nil => rfl
  | cons id rest ih => exact congrArg (id :: ·) (ih _)

theorem runAll_fst (hr : r.Stateless) (results : Results) (ids : List String) (s : Session) :
    (g.runAll r results ids s).1 = ids.map fun id => (id, g.outcome r results id) := by
  induction ids generalizing s with
  | nil => rfl
  | cons id rest ih =>
    unfold runAll
    simp only [Session.bind_apply, runNode_fst hr, List.map_cons]
    exact congrArg (_ :: ·) (ih _)

/-- The outcomes of a tier, in the order they are taken in. -/
def tierOutcomes (g : Graph) (r : Registry) (arrangement : Arrangement) (order : List String) (p : Progress)
    (tier : List String) : List (String × Outcome) :=
  arrangement.outcomes ((arrangement.nodes (tier.filter fun id => p.admits (placeIn order id))).map
    fun id => (id, g.outcome r p.results id))

theorem runTier_fst (hr : r.Stateless) (arrangement : Arrangement) (p : Progress) (tier : List String) (s : Session) :
    (g.runTier r arrangement order p tier s).1 =
      (g.tierOutcomes r arrangement order p tier).foldl
        (fun p (id, outcome) => p.take id (placeIn order id) outcome) p := by
  unfold runTier tierOutcomes
  rw [Session.bind_apply, runAll_fst hr]
  rfl

/-- However a tier is arranged, it is the admitted nodes whose outcomes are taken in. -/
theorem map_fst_tierOutcomes (hn : order.Nodup) (arrangement : Arrangement) (p : Progress) (tier : List String) :
    ((g.tierOutcomes r arrangement order p tier).map Prod.fst).Perm
      (tier.filter fun id => p.admits (order.idxOf id)) := by
  unfold tierOutcomes
  simp only [placeIn_eq hn]
  refine ((arrangement.outcomes_perm _).map _).trans ?_
  rw [List.map_map]
  exact (List.map_id _).symm ▸ arrangement.nodes_perm _

theorem eq_outcome_of_mem_tierOutcomes {arrangement : Arrangement} {p : Progress} {tier : List String}
    {x : String × Outcome} (hx : x ∈ g.tierOutcomes r arrangement order p tier) :
    x.2 = g.outcome r p.results x.1 := by
  obtain ⟨id, -, rfl⟩ := List.mem_map.1 ((arrangement.outcomes_perm _).mem_iff.1 hx)
  rfl

/-- What feeds a node was taken in before, so a tier brings it what it gets in order. -/
theorem Agrees.results_eq (hn : order.Nodup) (hf : g.Forward order) {taken : List String} {p : Progress}
    (h : g.Agrees r order taken p) {front back : List String} {id : String} (happ : order = front ++ id :: back)
    (hsource : ∀ c ∈ g.connections, c.target.node = id → c.source.node ∈ order → c.source.node ∈ taken)
    {before : Results} (hfront : g.evaluate r ∅ front = .ok before) {c : Connection} (hc : c ∈ g.connections)
    (ht : c.target.node = id) : before.get? c.source.node = p.results.get? c.source.node := by
  subst happ
  -- A producer in the order stands in front, so both runs have its outputs. Any other gave nothing.
  by_cases hs : c.source.node ∈ front ++ id :: back
  · obtain ⟨outputs, hans, hget⟩ := answers_of_evaluate hn hfront (hf.mem_front hn hc ht hs)
    rw [hget, h.results _ (hsource c hc ht hs) outputs hans]
  · have hbefore : c.source.node ∉ front := fun hm => hs (List.mem_append_left _ hm)
    rw [evaluate_get? hfront hbefore, OrderedMap.get?_eq_none_iff.2 fun hm => hs (h.listed _ hm)]
    rfl

theorem Agrees.outcome_eq (hg : g.KeyedById) (hn : order.Nodup) (hf : g.Forward order) {taken : List String}
    {p : Progress} (h : g.Agrees r order taken p) {id : String}
    (hsource : ∀ c ∈ g.connections, c.target.node = id → c.source.node ∈ order → c.source.node ∈ taken)
    {o : Outcome} (ha : g.Answers r order id o) : o = g.outcome r p.results id := by
  obtain ⟨front, back, before, happ, hfront, rfl⟩ := ha
  exact outcome_congr hg fun c hc ht => h.results_eq hn hf happ hsource hfront hc ht

theorem Agrees.foldl_take (hn : order.Nodup) {taken : List String} {p : Progress} (h : g.Agrees r order taken p)
    {os : List (String × Outcome)} (hnew : (os.map Prod.fst ++ taken).Nodup)
    (hos : ∀ x ∈ os, x.1 ∈ order ∧ ∀ o, g.Answers r order x.1 o → o = x.2) :
    g.Agrees r order (os.map Prod.fst ++ taken)
      (os.foldl (fun p (id, outcome) => p.take id (placeIn order id) outcome) p) := by
  induction os generalizing taken p with
  | nil => exact h
  | cons x rest ih =>
    obtain ⟨id, o⟩ := x
    obtain ⟨hid, ho⟩ := hos (id, o) List.mem_cons_self
    obtain ⟨hfirst, hrest⟩ := List.nodup_cons.1 hnew
    have htake := h.take hn hid (fun hm => hfirst (List.mem_append_right _ hm)) ho
    rw [← placeIn_eq hn] at htake
    refine (ih htake (List.nodup_middle.2 hnew) fun x hx => hos x (List.mem_cons_of_mem _ hx)).congr fun y => ?_
    simp only [List.map_cons, List.mem_append, List.mem_cons]
    tauto

/-- Running a tier keeps the run in step, if all that feeds the tier was taken in before. -/
theorem agrees_runTier (hr : r.Stateless) (hg : g.KeyedById) (hn : order.Nodup) (hf : g.Forward order)
    (arrangement : Arrangement) {taken tier : List String} {p : Progress} (h : g.Agrees r order taken p)
    (hnew : (tier ++ taken).Nodup) (htier : ∀ id ∈ tier, id ∈ order)
    (hsource : ∀ c ∈ g.connections, c.target.node ∈ tier → c.source.node ∈ order → c.source.node ∈ taken)
    (s : Session) : g.Agrees r order (tier ++ taken) (g.runTier r arrangement order p tier s).1 := by
  have hperm := map_fst_tierOutcomes (g := g) (r := r) hn arrangement p tier
  let admitted := fun id => p.admits (order.idxOf id)
  -- The nodes that are not admitted are passed over first; what runs does not depend on it.
  have hpass : g.Agrees r order (tier.filter (fun id => !admitted id) ++ taken) p := by
    refine h.pass fun id hid o => ?_
    obtain ⟨hm, hp⟩ := List.mem_filter.1 hid
    have hid' : id ∉ taken := fun ht => (List.nodup_append.1 hnew).2.2 id hm id ht rfl
    exact h.not_answers hid' (by simpa [admitted] using hp) o
  have hall : ((g.tierOutcomes r arrangement order p tier).map Prod.fst ++
      (tier.filter (fun id => !admitted id) ++ taken)).Perm (tier ++ taken) := by
    rw [← List.append_assoc]
    exact ((hperm.append_right _).trans (List.filter_append_perm admitted tier)).append_right taken
  rw [runTier_fst hr]
  refine (hpass.foldl_take hn (hall.nodup_iff.2 hnew) fun x hx => ?_).congr fun id => hall.mem_iff
  have hx' : x.1 ∈ tier := (List.mem_filter.1 (hperm.mem_iff.1 (List.mem_map_of_mem hx))).1
  refine ⟨htier _ hx', fun o ha => ?_⟩
  rw [eq_outcome_of_mem_tierOutcomes hx]
  exact h.outcome_eq hg hn hf (fun c hc ht => hsource c hc (ht ▸ hx')) ha

/-! ## One tier after the other -/

theorem agrees_start (order : List String) : g.Agrees r order [] ⟨∅, none⟩ where
  results id hid := by cases hid
  listed id hid := by cases hid
  failed id hid := by cases hid
  earliest place e hp := by cases hp

/-- Where a run by tiers stands when the first `k` tiers have run. -/
def afterTiers (g : Graph) (r : Registry) (arrangement : Arrangement) (order : List String) (k : Nat) :
    SessionM Progress :=
  g.runTiersFrom r arrangement order ⟨∅, none⟩ ((g.tiers order).take k)

theorem runTiersFrom_append (arrangement : Arrangement) (p : Progress) (front back : List (List String)) :
    g.runTiersFrom r arrangement order p (front ++ back) =
      g.runTiersFrom r arrangement order p front >>= fun p => g.runTiersFrom r arrangement order p back := by
  induction front generalizing p with
  | nil => rfl
  | cons tier rest ih =>
    simp only [List.cons_append, runTiersFrom, ih, bind_assoc]

theorem runTier_nil (arrangement : Arrangement) (p : Progress) :
    g.runTier r arrangement order p [] = pure p := by
  have hnodes : arrangement.nodes [] = [] := (arrangement.nodes_perm []).eq_nil
  have houtcomes : arrangement.outcomes [] = [] := (arrangement.outcomes_perm []).eq_nil
  simp only [runTier, List.filter_nil, hnodes, runAll, pure_bind, houtcomes, List.foldl_nil]

theorem afterTiers_length (arrangement : Arrangement) :
    g.afterTiers r arrangement order (g.tiers order).length =
      g.runTiersFrom r arrangement order ⟨∅, none⟩ (g.tiers order) := by
  rw [afterTiers, List.take_length]

/-- Behind the last tier nothing runs any more. -/
theorem afterTiers_succ (arrangement : Arrangement) (k : Nat) :
    g.afterTiers r arrangement order (k + 1) =
      g.afterTiers r arrangement order k >>= fun p =>
        g.runTier r arrangement order p ((g.tiers order).getD k []) := by
  unfold afterTiers
  rw [List.take_add_one, runTiersFrom_append]
  congr 1
  funext p
  cases h : (g.tiers order)[k]? with
  | none => simp [List.getD, h, runTier_nil, runTiersFrom]
  | some tier => simp [List.getD, h, runTiersFrom]

/-- After every tier the run is in step with the run in order. -/
theorem agrees_afterTiers (hr : r.Stateless) (hg : g.KeyedById) (hn : order.Nodup) (hf : g.Forward order)
    (arrangement : Arrangement) (s : Session) (k : Nat) :
    g.Agrees r order ((g.tiers order).take k).flatten (g.afterTiers r arrangement order k s).1 := by
  induction k with
  | zero => exact agrees_start order
  | succ k ih =>
    have hnew := nodup_flatten_take (g := g) hn (k + 1)
    rw [flatten_take_succ] at hnew ⊢
    rw [afterTiers_succ, Session.bind_apply]
    refine (agrees_runTier hr hg hn hf arrangement ih (List.nodup_append_comm.1 hnew) (fun id hid => ?_)
      (fun c hc ht hs => ?_) _).congr fun id => List.perm_append_comm.mem_iff
    · exact mem_of_mem_ranks (mem_getD_tiers.1 hid)
    · exact mem_flatten_take.2 (source_tier hn hf hc ht hs)

/-! ## The whole run -/

/-- Results put in order are those of the run in order. -/
theorem inOrder_eq {results final : Results} {before : Results} {rest : List String} (hn : rest.Nodup)
    (h : g.evaluate r before rest = .ok final) (hres : ∀ id ∈ rest, results.get? id = final.get? id) :
    rest.foldl (fun ordered id =>
      match results.get? id with
      | some outputs => ordered.insert id outputs
      | none => ordered) before = final := by
  induction rest generalizing before with
  | nil =>
    cases h
    rfl
  | cons id rest ih =>
    obtain ⟨outputs, -, h'⟩ := evaluate_cons_ok.1 h
    obtain ⟨hid, hrest⟩ := List.nodup_cons.1 hn
    have hget : results.get? id = some outputs := by
      rw [hres id List.mem_cons_self, evaluate_get? h' hid, OrderedMap.get?_insert, if_pos rfl]
    rw [List.foldl_cons, hget]
    exact ih hrest h' fun x hx => hres x (List.mem_cons_of_mem _ hx)

/-- Of an order that runs to its end nothing fails by tiers either. -/
theorem Agrees.not_failed (hn : order.Nodup) {p : Progress} (h : g.Agrees r order order p) {results : Results}
    (hrun : g.evaluate r ∅ order = .ok results) : p.failure? = none := by
  cases hp : p.failure? with
  | none => rfl
  | some failure =>
    obtain ⟨place, e⟩ := failure
    obtain ⟨id, hid, hplace, hall⟩ := h.earliest place e hp
    obtain ⟨outputs, ha, -⟩ := answers_of_mem hn hrun hid
    rcases hall id _ ha with hlt | ⟨-, ho⟩
    · omega
    · cases ho

/-- However its tiers are arranged, a run by tiers gives what the run in order gives. -/
theorem runByTiers_fst (hr : r.Stateless) (hg : g.KeyedById) (hn : order.Nodup) (hf : g.Forward order)
    (arrangement : Arrangement) (s : Session) :
    (g.runByTiers r arrangement order s).1 = g.evaluate r ∅ order := by
  have hall := agrees_afterTiers hr hg hn hf arrangement s (g.tiers order).length
  rw [List.take_length] at hall
  have h := hall.congr fun id => (flatten_tiers order).mem_iff
  unfold runByTiers
  rw [Session.bind_apply, ← afterTiers_length]
  generalize (g.afterTiers r arrangement order (g.tiers order).length s).1 = p at h
  cases hrun : g.evaluate r ∅ order with
  | ok results =>
    rw [h.not_failed hn hrun]
    have hget : ∀ id ∈ order, p.results.get? id = results.get? id := by
      intro id hid
      obtain ⟨outputs, ha, hout⟩ := answers_of_mem hn hrun hid
      rw [hout, h.results id hid outputs ha]
    exact congrArg Except.ok (inOrder_eq hn hrun hget)
  | error e =>
    obtain ⟨front, id, back, before, happ, hfront, ho⟩ := evaluate_error hrun
    have hid : id ∈ order := by simp [happ]
    rw [h.failed id hid e ⟨front, back, before, happ, hfront, ho⟩]
    rfl

end Dataflow.Graph
