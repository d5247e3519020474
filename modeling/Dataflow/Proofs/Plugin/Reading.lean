import Dataflow.Proofs.Plugin.Builtin
import Mathlib.Algebra.Group.Int.Defs
/-!
# Numbers that no node reads

The type `Int` has every whole number, up to the largest unsigned word, but nodes read signed words
only. Apart from that gap the types and the accessors agree: a node whose inputs have their types
succeeds exactly when its numbers fit a signed word (`run_ok_iff_fits`).
-/

namespace Dataflow.Builtin

variable {node : String} {d : NodeDeclaration} {inputs : PortValues} {value : Json}

/-- Every declared port has a value of its type. -/
def WellTyped (inputs : PortValues) (ports : OrderedMap String) : Prop :=
  ∀ port type, ports.get? port = some type →
    ∃ value, inputs.get? port = some value ∧ plugin.scope.validates value type = true

/-! ## Accessors -/

theorem isSome_int64?_whole (n : WholeNumber) : (Json.whole n).int64?.isSome = true ↔ n.val < 2 ^ 63 := by
  simp only [Json.int64?, WholeNumber.toInt64?]
  split <;> simp_all

theorem isSome_int64?_iff :
    value.int64?.isSome = true ↔
      plugin.scope.validates value "Int" = true ∧ ∀ n, value = .whole n → n.val < 2 ^ 63 := by
  rw [validates_int_iff]
  cases value with
  | whole n => simp [isSome_int64?_whole]
  | _ => simp [Json.int64?]

theorem isSome_bool?_iff : value.bool?.isSome = true ↔ plugin.scope.validates value "Bool" = true := by
  rw [validates_bool_iff]
  cases value <;> simp [Json.bool?]

theorem isSome_str?_iff : value.str?.isSome = true ↔ plugin.scope.validates value "String" = true := by
  rw [validates_string_iff]
  cases value <;> simp [Json.str?]

/-- An accessor succeeds where there is a value that it reads. -/
theorem requireAs_ok_iff {α : Type} {values : PortValues} {name port expected : String} {read? : Json → Option α} :
    (∃ a, values.requireAs name port expected read? = .ok a) ↔
      ∃ value, values.get? port = some value ∧ (read? value).isSome = true := by
  simp only [PortValues.requireAs_eq_ok_iff, Option.isSome_iff_exists]
  rw [exists_comm]
  simp only [exists_and_left]

/-! ## Nodes -/

/-- A value of the type of a port can be read, unless it is too large a number. -/
theorem legible_iff {type : String} (h : plugin.scope.validates value type = true) :
    legible type value = true ↔ ∀ n, type = "Int" → value = .whole n → n.val < 2 ^ 63 := by
  unfold legible
  split
  · subst type
    simp [isSome_int64?_iff, h]
  · split
    · subst type
      simp [isSome_str?_iff, h]
    · simp_all

/-- A node whose inputs have their types succeeds exactly when the numbers among them fit a signed
word, and it refuses one that does not. Accessors read the values of their types, but for these
numbers. -/
theorem run_ok_iff_fits (hd : declaration.nodes.get? node = some d) (hin : WellTyped inputs d.inputs)
    (supply : Supply) :
    ((∃ outputs, (plugin.run node inputs supply).1 = .ok outputs) ↔
      ∀ port n, d.inputs.get? port = some "Int" → inputs.get? port = some (.whole n) → n.val < 2 ^ 63) ∧
    (∀ e, (plugin.run node inputs supply).1 = .error e →
      ∃ port n, d.inputs.get? port = some "Int" ∧ inputs.get? port = some (.whole n) ∧ 2 ^ 63 ≤ n.val ∧
        e = .missingOrInvalidInput node port "an integer") ∧
    ∀ (values : PortValues) (name port : String),
      ((∃ n, values.requireInt name port = .ok n) ↔
        ∃ value, values.get? port = some value ∧ plugin.scope.validates value "Int" = true ∧
          ∀ n, value = .whole n → n.val < 2 ^ 63) ∧
      ((∃ b, values.requireBool name port = .ok b) ↔
        ∃ value, values.get? port = some value ∧ plugin.scope.validates value "Bool" = true) ∧
      ((∃ s, values.requireStr name port = .ok s) ↔
        ∃ value, values.get? port = some value ∧ plugin.scope.validates value "String" = true) := by
  refine and_assoc.1 ⟨?_, fun values name port => ?_⟩
  · obtain ⟨-, rfl⟩ := mem_nodes hd
    have ha := answers hd inputs supply
    generalize (plugin.run d.name inputs supply).1 = answer at ha ⊢
    cases ha with
    | @refuses port type hport hfinds =>
      rw [OrderedMap.mem_entries_iff] at hport
      obtain ⟨value, hget, hvalue⟩ := hin port type hport
      have hlarge : ¬ ∀ n, type = "Int" → value = .whole n → n.val < 2 ^ 63 :=
        fun h => hfinds ⟨value, hget, (legible_iff hvalue).2 h⟩
      simp only [Classical.not_forall, exists_prop] at hlarge
      obtain ⟨n, rfl, rfl, hn⟩ := hlarge
      refine ⟨⟨fun ⟨_, h⟩ => (nomatch h), fun h => absurd (h port n hport hget) hn⟩, ?_⟩
      rintro _ ⟨⟩
      exact ⟨port, n, hport, hget, Int.not_lt.1 hn, rfl⟩
    | gives hfinds _ =>
      refine ⟨⟨fun _ port n hport hget => ?_, fun _ => ⟨_, rfl⟩⟩, fun _ h => nomatch h⟩
      obtain ⟨_, hget', hlegible⟩ := hfinds (port, "Int") (OrderedMap.mem_entries_iff.2 hport)
      cases hget.symm.trans hget'
      exact (isSome_int64?_whole n).1 hlegible
  · simp only [PortValues.requireInt, PortValues.requireBool, PortValues.requireStr, requireAs_ok_iff,
      isSome_int64?_iff, isSome_bool?_iff, isSome_str?_iff, and_self]

/-- Inputs for `IsEven`. -/
def numbered (n : WholeNumber) : PortValues := .ofList [("number", .whole n), ("trigger", .bool true)]

theorem get?_numbered {n : WholeNumber} {port : String} :
    (numbered n).get? port = some value ↔
      port = "number" ∧ value = .whole n ∨ port = "trigger" ∧ value = .bool true := by
  rw [numbered, SortedMap.get?_ofList_of_nodup (by simp)]
  simp

theorem wellTyped_numbered (n : WholeNumber) : WellTyped (numbered n) nodes[2].inputs := by
  intro port type hport
  have hm := OrderedMap.mem_of_get? hport
  have hentries : nodes[2].inputs.entries = [("number", "Int"), ("trigger", "Signal")] := rfl
  simp only [hentries, List.mem_cons, Prod.mk.injEq, List.not_mem_nil, or_false] at hm
  rcases hm with ⟨rfl, rfl⟩ | ⟨rfl, rfl⟩
  · exact ⟨.whole n, get?_numbered.2 (.inl ⟨rfl, rfl⟩), validates_int_iff.2 ⟨n, rfl⟩⟩
  · exact ⟨.bool true, get?_numbered.2 (.inr ⟨rfl, rfl⟩), validates_signal true⟩

theorem run_ok_largest :
    WellTyped (numbered ⟨2 ^ 63 - 1, by decide, by decide⟩) nodes[2].inputs ∧
    ∃ outputs, (plugin.run "IsEven" (numbered ⟨2 ^ 63 - 1, by decide, by decide⟩) ⟨0, 0⟩).1 = .ok outputs := by
  refine ⟨wellTyped_numbered _, (run_ok_iff_fits rfl (wellTyped_numbered _) _).1.2 fun port n _ hget => ?_⟩
  rcases get?_numbered.1 hget with ⟨-, hn⟩ | ⟨-, hn⟩
  · cases hn
    decide
  · cases hn

/-- The number `2 ^ 63` is of the type `Int`, and `IsEven` refuses it. -/
theorem wellTyped_refused :
    ¬ ∀ node d, declaration.nodes.get? node = some d → ∀ inputs, WellTyped inputs d.inputs → ∀ supply,
      ∃ outputs, (plugin.run node inputs supply).1 = .ok outputs := by
  intro h
  obtain ⟨_, hrun⟩ := h "IsEven" nodes[2] rfl (numbered ⟨2 ^ 63, by decide, by decide⟩) (wellTyped_numbered _) ⟨0, 0⟩
  have hd : declaration.nodes.get? "IsEven" = some nodes[2] := rfl
  have ha := hrun ▸ answers hd (numbered ⟨2 ^ 63, by decide, by decide⟩) ⟨0, 0⟩
  cases ha with
  | gives hfinds _ =>
    obtain ⟨value, hget, hlegible⟩ := hfinds ("number", "Int") List.mem_cons_self
    rcases get?_numbered.1 hget with ⟨-, rfl⟩ | ⟨hport, -⟩
    · exact absurd hlegible (by decide)
    · exact absurd hport (by decide)

end Dataflow.Builtin
