import Dataflow.Run.Node
import Mathlib.Data.List.Basic
/-!
# The inputs of a node

A port has its parameter. A port without one has the value of the last connection into it whose source
gave something (`Graph.get?_gatherInputs`): a later connection whose source gave nothing does not clear what
an earlier one brought. Of the results nothing is read but the sources of the connections into the node
(`Graph.gatherInputs_of_sources`).
-/

namespace Dataflow

/-- Where an ordered map has nothing, the map under it shows. -/
theorem SortedMap.get?_overlay {α : Type} (m : SortedMap α) (upper : OrderedMap α) (key : String) :
    (m.overlay upper.entries).get? key = (upper.get? key).or (m.get? key) := by
  rcases m.get?_overlay_cases upper.entries key with ⟨value, hm, hget⟩ | ⟨hnone, hget⟩
  · rw [hget, OrderedMap.mem_entries_iff.1 hm, Option.some_or]
  · have hupper : upper.get? key = none :=
      Option.eq_none_iff_forall_ne_some.2 fun value hv => hnone value (OrderedMap.mem_of_get? hv)
    rw [hget, hupper, Option.none_or]

namespace Graph

variable {g : Graph} {node : Node} {results results' : Results} {port : String} {value : Json}

/-- What comes to an endpoint: the value of the last connection into it whose source gave something. -/
def lastValue? (g : Graph) (results : Results) (e : Endpoint) : Option Json :=
  (g.connections.filter (·.target = e)).reverse.findSome? fun c => results.valueAt? c.source

theorem get?_foldl_carry (results : Results) (connections : List Connection) (inputs : PortValues) (port : String) :
    (connections.foldl results.carry inputs).get? port =
      ((connections.filter (·.target.port = port)).reverse.findSome? fun c => results.valueAt? c.source).or
        (inputs.get? port) := by
  induction connections generalizing inputs with
  | nil => rfl
  | cons c rest ih =>
    have hstep : (results.carry inputs c).get? port =
        if c.target.port = port then (results.valueAt? c.source).or (inputs.get? port) else inputs.get? port := by
      unfold Results.carry
      cases results.valueAt? c.source with
      | none => simp
      | some value => simp only [SortedMap.get?_insert, Option.some_or, eq_comm]
    rw [List.foldl_cons, ih, hstep]
    by_cases hport : c.target.port = port <;> simp [hport, Option.or_assoc]

theorem filter_incoming (g : Graph) (id port : String) :
    (g.incoming id).filter (·.target.port = port) = g.connections.filter (·.target = ⟨id, port⟩) := by
  rw [incoming, List.filter_filter]
  refine List.filter_congr fun c _ => ?_
  obtain ⟨_, ⟨_, _⟩, _⟩ := c
  simp [Bool.and_comm]

theorem get?_gatherInputs (g : Graph) (node : Node) (results : Results) (port : String) :
    (g.gatherInputs node results).get? port =
      (node.parameters.get? port).or (g.lastValue? results ⟨node.id, port⟩) := by
  have hempty : (∅ : PortValues).get? port = none := rfl
  rw [gatherInputs, SortedMap.get?_overlay, get?_foldl_carry, filter_incoming, hempty, Option.or_none]
  rfl

theorem isSome_lastValue?_iff {e : Endpoint} :
    (g.lastValue? results e).isSome ↔ ∃ c ∈ g.connections, c.target = e ∧ (results.valueAt? c.source).isSome := by
  simp [lastValue?, List.findSome?_isSome_iff, and_assoc]

/-- The connection that counts has a source that gave something, and no later one into the endpoint has. -/
theorem lastValue?_eq_some_iff {e : Endpoint} :
    g.lastValue? results e = some value ↔
      ∃ before c after, g.connections = before ++ c :: after ∧ c.target = e ∧
        results.valueAt? c.source = some value ∧
        ∀ later ∈ after, later.target = e → results.valueAt? later.source = none := by
  constructor
  · intro h
    obtain ⟨after, c, before, hsplit, hvalue, hafter⟩ := List.findSome?_eq_some_iff.1 h
    have hfilter : g.connections.filter (·.target = e) = before.reverse ++ c :: after.reverse := by
      rw [← List.reverse_inj, hsplit]
      simp
    obtain ⟨front, back, hparts, -, hback⟩ := List.filter_eq_append_iff.1 hfilter
    obtain ⟨skipped, rest, rfl, hskipped, hc, hrest⟩ := List.filter_eq_cons_iff.1 hback
    refine ⟨front ++ skipped, c, rest, by simp [hparts], by simpa using hc, hvalue, ?_⟩
    intro later hlater htarget
    refine hafter later ?_
    rw [← List.mem_reverse, ← hrest]
    exact List.mem_filter.2 ⟨hlater, by simpa using htarget⟩
  · rintro ⟨before, c, after, hparts, htarget, hvalue, hafter⟩
    refine List.findSome?_eq_some_iff.2
      ⟨(after.filter (·.target = e)).reverse, c, (before.filter (·.target = e)).reverse, ?_, hvalue, ?_⟩
    · simp [hparts, htarget]
    · intro later hlater
      obtain ⟨hm, ht⟩ := List.mem_filter.1 (List.mem_reverse.1 hlater)
      exact hafter later hm (by simpa using ht)

/-- A port has one of the values that are brought to it, unless there is none. -/
theorem gatherInputs_cases (node : Node) (results : Results) (port : String) :
    (∃ value, (g.gatherInputs node results).get? port = some value ∧
      ((port, value) ∈ node.parameters.entries ∨
        ∃ c ∈ g.connections, c.target = ⟨node.id, port⟩ ∧ results.valueAt? c.source = some value)) ∨
    ((∀ value, (port, value) ∉ node.parameters.entries) ∧
      ∀ c ∈ g.connections, c.target = ⟨node.id, port⟩ → results.valueAt? c.source = none) := by
  rw [get?_gatherInputs]
  simp only [OrderedMap.mem_entries_iff]
  cases hparameter : node.parameters.get? port with
  | some value => exact .inl ⟨value, rfl, .inl rfl⟩
  | none =>
    rw [Option.none_or]
    cases hlast : g.lastValue? results ⟨node.id, port⟩ with
    | some value =>
      obtain ⟨before, c, after, hc, htarget, hvalue, -⟩ := lastValue?_eq_some_iff.1 hlast
      exact .inl ⟨value, rfl, .inr ⟨c, by simp [hc], htarget, hvalue⟩⟩
    | none =>
      refine .inr ⟨by simp, fun c hc htarget => Option.not_isSome_iff_eq_none.1 fun hsome => ?_⟩
      have := isSome_lastValue?_iff.2 ⟨c, hc, htarget, hsome⟩
      simp [hlast] at this

/-- Nothing of the results counts but what the sources of the connections into the node gave. -/
theorem gatherInputs_of_sources
    (h : ∀ c ∈ g.connections, c.target.node = node.id → results.valueAt? c.source = results'.valueAt? c.source) :
    g.gatherInputs node results = g.gatherInputs node results' := by
  have hcarry : (g.incoming node.id).foldl results.carry ∅ = (g.incoming node.id).foldl results'.carry ∅ := by
    refine List.foldl_ext _ _ _ fun inputs c hc => ?_
    obtain ⟨hm, ht⟩ := List.mem_filter.1 hc
    unfold Results.carry
    rw [h c hm (by simpa using ht)]
  rw [gatherInputs, hcarry, gatherInputs]

/-- A port has a value if and only if it has a parameter or the source of some connection into it gave
something. The value is the parameter, or else what came over the last such connection, whatever connections
follow it whose sources gave nothing. Results in which the sources of the connections into the node gave the
same make no difference. -/
theorem gatherInputs_takes_last (g : Graph) (node : Node) (results : Results) :
    (∀ port, (g.gatherInputs node results).contains port ↔
      node.parameters.contains port ∨
        ∃ c ∈ g.connections, c.target = ⟨node.id, port⟩ ∧ (results.valueAt? c.source).isSome) ∧
    (∀ port value, (g.gatherInputs node results).get? port = some value ↔
      node.parameters.get? port = some value ∨
        node.parameters.get? port = none ∧
          ∃ before c after, g.connections = before ++ c :: after ∧ c.target = ⟨node.id, port⟩ ∧
            results.valueAt? c.source = some value ∧
            ∀ later ∈ after, later.target = ⟨node.id, port⟩ → results.valueAt? later.source = none) ∧
    ∀ results',
      (∀ c ∈ g.connections, c.target.node = node.id → results.valueAt? c.source = results'.valueAt? c.source) →
      g.gatherInputs node results = g.gatherInputs node results' := by
  refine ⟨fun port => ?_, fun port value => ?_, fun results' h => gatherInputs_of_sources h⟩
  · rw [SortedMap.contains, get?_gatherInputs, Option.isSome_or, Bool.or_eq_true, isSome_lastValue?_iff,
      OrderedMap.contains]
  · rw [get?_gatherInputs, Option.or_eq_some_iff, lastValue?_eq_some_iff]

/-- Three connections lead into one port, and the source of the last one gave nothing. -/
theorem gatherInputs_takes_last_present :
    let node := (Node.named "n" "p" "T").withParameter "fixed" (.int 7)
    let g := { Graph.named "g" with connections := [
      ⟨⟨"a", "x"⟩, ⟨"n", "fed"⟩, .data⟩, ⟨⟨"b", "y"⟩, ⟨"n", "fed"⟩, .control⟩, ⟨⟨"b", "none"⟩, ⟨"n", "fed"⟩, .data⟩,
      ⟨⟨"a", "x"⟩, ⟨"n", "fixed"⟩, .data⟩, ⟨⟨"c", "x"⟩, ⟨"n", "empty"⟩, .data⟩] }
    let results : Results := .ofList [("a", .ofList [("x", .int 1)]), ("b", .ofList [("y", .int 2), ("z", .int 3)])]
    let results' : Results := .ofList [("b", .ofList [("y", .int 2)]), ("a", .ofList [("x", .int 1), ("z", .int 4)])]
    (g.gatherInputs node results).get? "fed" = some (.int 2) ∧
      (g.gatherInputs node results).get? "fixed" = some (.int 7) ∧
      ¬ (g.gatherInputs node results).contains "empty" ∧
      g.gatherInputs node results = g.gatherInputs node results' := by
  intro node g results results'
  obtain ⟨hcontains, hget, hsources⟩ := gatherInputs_takes_last g node results
  refine ⟨?_, ?_, ?_, ?_⟩
  · refine (hget "fed" (.int 2)).2 (.inr ⟨rfl, [_], ⟨⟨"b", "y"⟩, ⟨"n", "fed"⟩, .control⟩, _, rfl, rfl, rfl, ?_⟩)
    decide
  · exact (hget "fixed" (.int 7)).2 (.inl rfl)
  · rw [hcontains]
    decide
  · apply hsources results'
    simp only [g, List.forall_mem_cons]
    exact ⟨fun _ => rfl, fun _ => rfl, fun _ => rfl, fun _ => rfl, fun _ => rfl, fun _ h => nomatch h⟩

end Graph

end Dataflow
