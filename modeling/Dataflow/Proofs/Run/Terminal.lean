import Dataflow.Run.Terminal
import Mathlib.Data.List.Basic
/-!
# What the terminal outputs of a run hold

Terminal outputs stand under the texts of their endpoints, and two endpoints can have the same
text: that of `b.c` at the node `a` and that of `c` at the node `a.b` is `a.b.c`. The later of the
two results stays then. As long as unread outputs with the same text hold the same value
(`Graph.Unambiguous`), the order of the results does not matter (`Graph.terminalOutputs_congr`).
-/

namespace Dataflow

namespace Graph

variable {g g' : Graph} {results results' : Results}

/-- The outputs that no connection reads, with the texts of their endpoints, in the order of the results. -/
def unreadOutputs (g : Graph) (results : Results) : List (String × Json) :=
  results.entries.flatMap fun (id, outputs) =>
    (outputs.entries.filter fun (port, _) => !g.isConsumed id port).map fun (port, value) =>
      (Endpoint.text ⟨id, port⟩, value)

theorem terminalOutputs_eq (g : Graph) (results : Results) :
    g.terminalOutputs results = SortedMap.ofList (g.unreadOutputs results) := by
  unfold terminalOutputs unreadOutputs SortedMap.ofList addTerminal
  rw [List.foldl_flatMap]
  congr 1
  funext terminal entry
  obtain ⟨id, outputs⟩ := entry
  rw [List.foldl_map, List.foldl_filter]
  dsimp only
  congr 1
  funext terminal entry
  by_cases hc : g.isConsumed id entry.1 = true <;> simp [hc]

/-- The value of an output that no connection reads. -/
def unread? (g : Graph) (results : Results) (e : Endpoint) : Option Json :=
  if g.isConsumed e.node e.port then none else results.valueAt? e

theorem Endpoint.eq_iff {e e' : Endpoint} : e = e' ↔ e.node = e'.node ∧ e.port = e'.port := by
  cases e
  cases e'
  simp

theorem unread?_eq_some_iff {e : Endpoint} {value : Json} :
    g.unread? results e = some value ↔ results.valueAt? e = some value ∧ ∀ c ∈ g.connections, c.source ≠ e := by
  obtain ⟨node, port⟩ := e
  have hread : g.isConsumed node port = true ↔ ∃ c ∈ g.connections, c.source = ⟨node, port⟩ := by
    simp [isConsumed, Endpoint.eq_iff]
  unfold unread?
  dsimp only
  split
  · rename_i hc
    obtain ⟨c, hm, hc⟩ := hread.1 hc
    exact ⟨nofun, fun h => absurd hc (h.2 c hm)⟩
  · rename_i hc
    rw [hread] at hc
    exact ⟨fun h => ⟨h, fun c hm he => hc ⟨c, hm, he⟩⟩, fun h => h.1⟩

theorem mem_unreadOutputs {key : String} {value : Json} :
    (key, value) ∈ g.unreadOutputs results ↔ ∃ e : Endpoint, e.text = key ∧ g.unread? results e = some value := by
  simp only [unreadOutputs, List.mem_flatMap, List.mem_map, List.mem_filter]
  constructor
  · rintro ⟨⟨id, outputs⟩, hid, ⟨port, v⟩, ⟨hport, hread⟩, he⟩
    cases he
    have hresult : results.get? id = some outputs := OrderedMap.mem_entries_iff.1 hid
    have hvalue : outputs.get? port = some v := SortedMap.mem_entries_iff.1 hport
    refine ⟨⟨id, port⟩, rfl, ?_⟩
    simp_all [unread?, Results.valueAt?]
  · rintro ⟨⟨id, port⟩, rfl, he⟩
    unfold unread? at he
    split at he
    · cases he
    · rename_i hread
      obtain ⟨outputs, hresult, hvalue⟩ := Option.bind_eq_some_iff.1 he
      exact ⟨(id, outputs), OrderedMap.mem_of_get? hresult, (port, value),
        ⟨SortedMap.mem_entries_iff.2 hvalue, by simpa using hread⟩, rfl⟩

/-- Unread outputs with the same text hold the same value. -/
def Unambiguous (g : Graph) (results : Results) : Prop :=
  ∀ e e' value value', g.unread? results e = some value → g.unread? results e' = some value' →
    e.text = e'.text → value = value'

theorem get?_terminalOutputs (h : g.Unambiguous results) {key : String} {value : Json} :
    (g.terminalOutputs results).get? key = some value ↔
      ∃ e : Endpoint, e.text = key ∧ g.unread? results e = some value := by
  rw [terminalOutputs_eq, SortedMap.get?_ofList, mem_unreadOutputs]
  intro key value value' hv hv'
  obtain ⟨e, rfl, he⟩ := mem_unreadOutputs.1 hv
  obtain ⟨e', htext, he'⟩ := mem_unreadOutputs.1 hv'
  exact h e e' value value' he he' htext.symm

theorem terminalOutputs_congr (h : g.Unambiguous results) (hsame : ∀ e, g'.unread? results' e = g.unread? results e) :
    g'.terminalOutputs results' = g.terminalOutputs results := by
  have h' : g'.Unambiguous results' := by
    intro e e' value value' he he'
    rw [hsame] at he he'
    exact h e e' value value' he he'
  apply SortedMap.ext_get?
  intro key
  ext value
  rw [get?_terminalOutputs h, get?_terminalOutputs h']
  simp only [hsame]

/-- Texts tell endpoints apart if the names of the nodes have no dot. -/
theorem Endpoint.text_injective {e e' : Endpoint} (h : '.' ∉ e.node.toList) (h' : '.' ∉ e'.node.toList)
    (htext : e.text = e'.text) : e = e' := by
  obtain ⟨node, port⟩ := e
  obtain ⟨node', port'⟩ := e'
  have hlist : node.toList ++ '.' :: port.toList = node'.toList ++ '.' :: port'.toList := by
    simpa [Endpoint.text] using congrArg String.toList htext
  -- The name of the node is what stands before the first dot.
  have hbefore : ∀ l rest : List Char, '.' ∉ l → (l ++ '.' :: rest).takeWhile (· ≠ '.') = l := by
    intro l rest hl
    rw [List.takeWhile_append_of_pos fun c hc => by simpa using ne_of_mem_of_not_mem hc hl]
    simp
  have hnode : node.toList = node'.toList := by
    rw [← hbefore node.toList port.toList h, hlist, hbefore node'.toList port'.toList h']
  rw [hnode] at hlist
  have hport : port.toList = port'.toList := (List.cons.inj (List.append_cancel_left hlist)).2
  rw [String.toList_injective hnode, String.toList_injective hport]

theorem unambiguous_of_no_dot (h : ∀ id ∈ results.keys, '.' ∉ id.toList) : g.Unambiguous results := by
  have hnode : ∀ e value, g.unread? results e = some value → '.' ∉ e.node.toList := by
    intro e value he
    unfold unread? at he
    split at he
    · cases he
    · obtain ⟨outputs, hresult, -⟩ := Option.bind_eq_some_iff.1 he
      exact h _ (OrderedMap.mem_keys_iff.2 ⟨outputs, hresult⟩)
  intro e e' value value' he he' htext
  cases Endpoint.text_injective (hnode e value he) (hnode e' value' he') htext
  exact Option.some.inj (he.symm.trans he')

end Graph

end Dataflow
