import Dataflow.Graph.Wiring
import Dataflow.Plugin.Port
import Mathlib.Data.List.Forall2
/-!
# What a plugin promises

The declaration of a node is a contract: where every declared input port has a value that its type
allows, the node succeeds and gives such a value at every declared output port (`Plugin.Keeps`).
Which values a type allows is left open here.
-/

namespace Dataflow

/-- Every declared port has a value that its type allows. Types are asked for by their qualified
names; the declaration was written by `plugin`. -/
def PortValues.Fill (values : PortValues) (allows : String → Json → Prop)
    (plugin : String) (ports : OrderedMap String) :
    Prop :=
  ∀ port type, ports.get? port = some type → ∃ value, values.get? port = some value ∧ allows (qualify plugin type) value

/-- The plugin can be relied on for each of its nodes, whatever the supply. -/
def Plugin.Keeps (p : Plugin) (allows : String → Json → Prop) : Prop :=
  ∀ node d, p.declaration.nodes.get? node = some d → ∀ inputs : PortValues, inputs.Fill allows p.name d.inputs →
    ∀ supply, ∃ outputs : PortValues, (p.run node inputs supply).1 = .ok outputs ∧ outputs.Fill allows p.name d.outputs

theorem exists_mem_of_forall₂ {α β : Type} {R : α → β → Prop} {l : List α} {l' : List β} (h : List.Forall₂ R l l')
    {b : β} (hb : b ∈ l') : ∃ a ∈ l, R a b := by
  induction h with
  | nil => cases hb
  | cons hab _ ih =>
    rcases List.mem_cons.1 hb with rfl | hb
    · exact ⟨_, List.mem_cons_self, hab⟩
    · obtain ⟨a, ha, h⟩ := ih hb
      exact ⟨a, List.mem_cons_of_mem _ ha, h⟩

namespace PortValues

variable {values : PortValues} {allows : String → Json → Prop} {plugin : String} {ports : OrderedMap String}

/-- Values that are listed as the ports are declared have their names. -/
theorem map_fst_of_forall₂ {pairs : List (String × Json)}
    (h : List.Forall₂ (fun v p => v.1 = p.1 ∧ allows (qualify plugin p.2) v.2) pairs ports.entries) :
    pairs.map Prod.fst = ports.keys := by
  change _ = ports.entries.map Prod.fst
  rw [← List.forall₂_eq_eq_eq, List.forall₂_map_left_iff, List.forall₂_map_right_iff]
  exact h.imp fun _ _ h => h.1

/-- Values that are listed as the ports are declared fill them. -/
theorem fill_ofList {pairs : List (String × Json)}
    (h : List.Forall₂ (fun v p => v.1 = p.1 ∧ allows (qualify plugin p.2) v.2) pairs ports.entries) :
    Fill (.ofList pairs) allows plugin ports := by
  intro port type hport
  obtain ⟨⟨_, v⟩, hm, rfl, hv⟩ := exists_mem_of_forall₂ h (OrderedMap.mem_of_get? hport)
  exact ⟨v, (SortedMap.get?_ofList_of_nodup (map_fst_of_forall₂ h ▸ ports.nodup)).2 hm, hv⟩

theorem requireAs_eq_ok_iff {α : Type} {inputs : PortValues} {node port expected : String} {read? : Json → Option α}
    {a : α} :
    inputs.requireAs node port expected read? = .ok a ↔
      ∃ value, inputs.get? port = some value ∧ read? value = some a := by
  unfold requireAs
  rw [← Option.bind_eq_some_iff]
  cases (inputs.get? port).bind read? <;> simp

end PortValues

end Dataflow
