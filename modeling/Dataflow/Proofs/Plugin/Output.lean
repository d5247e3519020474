import Dataflow.Proofs.Plugin.Builtin
import Mathlib.Data.List.Nodup
/-!
# What nodes give

Declarations and implementations stand in two tables that share nothing but the names of the nodes.
They agree (`run_conforms`): what a node of the plugin gives has a value of the declared type at
each declared port and nothing else, and the plugin knows no node that it does not declare.
-/

namespace Dataflow.Builtin

variable {node : String} {inputs outputs : PortValues} {ports : OrderedMap String}

/-- The values stand at exactly the declared ports, and each has the type of its port. -/
structure Conforms (outputs : PortValues) (ports : OrderedMap String) : Prop where
  keys : outputs.keys.Perm ports.keys
  typed : ∀ port value, outputs.get? port = some value →
    ∃ type, ports.get? port = some type ∧ plugin.scope.validates value type = true

/-- Values that are listed as the ports are declared conform to them. -/
theorem conforms_ofList {pairs : List (String × Json)}
    (h : List.Forall₂ (fun v p => v.1 = p.1 ∧ Allows (qualify pluginName p.2) v.2) pairs ports.entries) :
    Conforms (.ofList pairs) ports := by
  have hkeys := PortValues.map_fst_of_forall₂ h
  have hn : (pairs.map Prod.fst).Nodup := hkeys ▸ ports.nodup
  constructor
  case keys =>
    rw [← hkeys, List.perm_ext_iff_of_nodup (SortedMap.nodup_keys _) hn]
    intro port
    simp [SortedMap.mem_keys_iff, SortedMap.get?_ofList_of_nodup hn]
  case typed =>
    intro port value hget
    obtain ⟨⟨_, type⟩, hm, rfl, hallows⟩ := exists_mem_of_forall₂ h.flip ((SortedMap.get?_ofList_of_nodup hn).1 hget)
    exact ⟨type, OrderedMap.mem_entries_iff.1 hm, (allows_qualify.1 hallows).1⟩

/-- The plugin implements the nodes that it declares. -/
theorem keys_table : table.bodies.keys.Perm declaration.nodes.keys := by decide +kernel

theorem run_undeclared (h : declaration.nodes.get? node = none) (inputs : PortValues) (supply : Supply) :
    (plugin.run node inputs supply).1 = .error (.unknownNode pluginName node) := by
  have htable : table.get? node = none := by
    rw [Option.eq_none_iff_forall_ne_some]
    intro body hbody
    exact OrderedMap.get?_eq_none_iff.1 h (keys_table.subset (SortedMap.mem_keys_iff.2 ⟨body, hbody⟩))
  simp only [plugin, NodeTable.dispatch, htable]
  rfl

/-- If a node succeeds, then it is declared, and what it gives conforms to the declaration. A node
is unknown exactly when it is not declared, and the failure names it and the plugin. -/
theorem run_conforms (node : String) (inputs : PortValues) (supply : Supply) :
    (∀ outputs, (plugin.run node inputs supply).1 = .ok outputs →
      ∃ d, declaration.nodes.get? node = some d ∧ Conforms outputs d.outputs) ∧
    (declaration.nodes.get? node = none →
      (plugin.run node inputs supply).1 = .error (.unknownNode pluginName node)) ∧
    ∀ d, declaration.nodes.get? node = some d →
      ∀ p n, (plugin.run node inputs supply).1 ≠ .error (.unknownNode p n) := by
  refine ⟨fun outputs hrun => ?_, fun h => run_undeclared h inputs supply, fun d hd p n => ?_⟩
  · cases hd : declaration.nodes.get? node with
    | none => cases (run_undeclared hd inputs supply).symm.trans hrun
    | some d =>
      have ha := hrun ▸ answers hd inputs supply
      cases ha with
      | gives _ hpairs => exact ⟨d, rfl, conforms_ofList hpairs⟩
  · have ha := answers hd inputs supply
    generalize (plugin.run node inputs supply).1 = answer at ha
    cases ha <;> simp

theorem run_conforms_prompt :
    (∃ outputs, (plugin.run "CreatePrompt" (.ofList [("name", .str "greeting"), ("content", .str "")]) ⟨0, 7⟩).1 =
        .ok outputs ∧ Conforms outputs nodes[4].outputs) ∧
      declaration.nodes.get? "Prompt" = none ∧
      (plugin.run "Prompt" ∅ ⟨0, 7⟩).1 = .error (.unknownNode "basic" "Prompt") := by
  have htexts : promptTexts (.ofList [("name", .str "greeting"), ("content", .str "")]) = .ok ("greeting", "") := rfl
  have hrun : (plugin.run "CreatePrompt" (.ofList [("name", .str "greeting"), ("content", .str "")]) ⟨0, 7⟩).1 = _ :=
    run_createPrompt.trans (congrArg _ htexts)
  obtain ⟨d, hd, hconforms⟩ := (run_conforms _ _ _).1 _ hrun
  obtain rfl : nodes[4] = d := Option.some.inj hd
  exact ⟨⟨_, hrun, hconforms⟩, rfl, (run_conforms "Prompt" ∅ ⟨0, 7⟩).2.1 rfl⟩

end Dataflow.Builtin
