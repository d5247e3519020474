import Dataflow.Proofs.Type.Reference
import Dataflow.Proofs.Type.Validation
/-!
# Typing

`TypeScope.HasType` says which values a type has, without a bound on how deep types may refer to each
other. Validation finds this out, except that it gives up on a type from which a chain of more than
`maxTypeDepth` references starts (`validates_iff_hasType`).
-/

namespace Dataflow

/-- The values of a primitive type. Whole numbers are those that fit a word, and no float is one. -/
inductive HasShape : PrimitiveType → Json → Prop
  | boolean (b : Bool) : HasShape .boolean (.bool b)
  | integer (n : WholeNumber) : HasShape .integer (.whole n)
  | string (s : String) : HasShape .string (.str s)

namespace TypeScope

/-- The value has the type that the name resolves to. -/
inductive HasType (scope : TypeScope) : Json → String → Prop
  | primitive {value : Json} {name declared : String} {shape : PrimitiveType} :
      scope.lookup? name = some ⟨declared, .primitive shape⟩ → HasShape shape value → HasType scope value name
  | semantic {value : Json} {name declared base : String} {rules : List String} :
      scope.lookup? name = some ⟨declared, .semantic base rules⟩ → HasType scope value base →
      (∀ rule ∈ rules, scope.checkRule name rule value = true) → HasType scope value name
  | composite {members : List (String × Json)} {name declared : String} {fields : OrderedMap String} :
      scope.lookup? name = some ⟨declared, .composite fields⟩ →
      (∀ e ∈ fields.entries, (members.lookup e.1).isSome) →
      (∀ e ∈ fields.entries, ∀ value, members.lookup e.1 = some value → HasType scope value e.2) →
      HasType scope (.obj members) name

variable {scope : TypeScope} {name declared : String} {value : Json} {fuel : Nat}

theorem hasShape_iff {shape : PrimitiveType} : HasShape shape value ↔ shape.matches value = true := by
  constructor
  · rintro ⟨⟩ <;> rfl
  · intro h
    cases shape <;> cases value <;> first | constructor | cases h

/-! ## What a typing rests on, kind by kind -/

theorem not_hasType (h : scope.lookup? name = none) : ¬ scope.HasType value name := by
  rintro (⟨h', -⟩ | ⟨h', -, -⟩ | ⟨h', -, -⟩) <;> simp [h] at h'

theorem hasType_primitive {shape : PrimitiveType} (h : scope.lookup? name = some ⟨declared, .primitive shape⟩) :
    scope.HasType value name ↔ HasShape shape value := by
  constructor
  · rintro (⟨h', hshape⟩ | ⟨h', -, -⟩ | ⟨h', -, -⟩) <;> cases h.symm.trans h'
    exact hshape
  · exact .primitive h

theorem hasType_semantic {base : String} {rules : List String}
    (h : scope.lookup? name = some ⟨declared, .semantic base rules⟩) :
    scope.HasType value name ↔
      scope.HasType value base ∧ ∀ rule ∈ rules, scope.checkRule name rule value = true := by
  constructor
  · rintro (⟨h', -⟩ | ⟨h', hbase, hrules⟩ | ⟨h', -, -⟩) <;> cases h.symm.trans h'
    exact ⟨hbase, hrules⟩
  · rintro ⟨hbase, hrules⟩
    exact .semantic h hbase hrules

theorem hasType_composite {fields : OrderedMap String}
    (h : scope.lookup? name = some ⟨declared, .composite fields⟩) :
    scope.HasType value name ↔
      ∃ members, value = .obj members ∧
        ∀ e ∈ fields.entries, ∃ v, members.lookup e.1 = some v ∧ scope.HasType v e.2 := by
  constructor
  · rintro (⟨h', -⟩ | ⟨h', -, -⟩ | ⟨h', hkeys, hfields⟩) <;> cases h.symm.trans h'
    refine ⟨_, rfl, fun e he => ?_⟩
    obtain ⟨v, hv⟩ := Option.isSome_iff_exists.1 (hkeys e he)
    exact ⟨v, hv, hfields e he v hv⟩
  · rintro ⟨members, rfl, hfields⟩
    apply HasType.composite h
    · intro e he
      obtain ⟨v, hv, -⟩ := hfields e he
      simp [hv]
    · intro e he w hw
      obtain ⟨v, hv, htype⟩ := hfields e he
      cases hv.symm.trans hw
      exact htype

/-! ## Validation decides typing -/

theorem forall_mem_values {fields : OrderedMap String} {P : String → Prop} :
    (∀ target ∈ fields.values, P target) ↔ ∀ e ∈ fields.entries, P e.2 :=
  List.forall_mem_map

theorem validatesWithin_iff :
    scope.validatesWithin fuel value name = true ↔ scope.HasType value name ∧ scope.Shallow fuel name := by
  -- The induction is on the fuel, which one reference uses up on either side.
  induction fuel generalizing value name with
  | zero => simp [validatesWithin, not_shallow_zero]
  | succ fuel ih =>
    rw [shallow_succ_iff]
    cases h : scope.lookup? name with
    | none => simp [validatesWithin_unknown h, not_hasType h]
    | some type =>
      obtain ⟨declared, kind⟩ := type
      simp only [refers_iff h]
      cases kind with
      | primitive shape =>
        rw [validatesWithin_primitive h, hasType_primitive h, hasShape_iff]
        simp [TypeKind.references]
      | semantic base rules =>
        rw [validatesWithin_semantic h, hasType_semantic h, Bool.and_eq_true, ih, List.all_eq_true]
        simp [TypeKind.references, and_right_comm]
      | composite fields =>
        rw [validatesWithin_record h, hasType_composite h, TypeKind.references, forall_mem_values]
        simp only [ih]
        constructor
        · rintro ⟨members, rfl, hfields⟩
          refine ⟨⟨members, rfl, fun e he => ?_⟩, fun e he => ?_⟩
          · obtain ⟨v, hv, htype, -⟩ := hfields e he
            exact ⟨v, hv, htype⟩
          · obtain ⟨v, -, -, hshallow⟩ := hfields e he
            exact hshallow
        · rintro ⟨⟨members, rfl, hfields⟩, hshallow⟩
          refine ⟨members, rfl, fun e he => ?_⟩
          obtain ⟨v, hv, htype⟩ := hfields e he
          exact ⟨v, hv, htype, hshallow e he⟩

/-- A value is accepted if and only if it has the type and no chain of more than `maxTypeDepth`
references starts at the type. -/
theorem validates_iff_hasType (scope : TypeScope) (value : Json) (name : String) :
    scope.validates value name = true ↔
      scope.HasType value name ∧ ∀ names, scope.Chain name names → names.length ≤ maxTypeDepth := by
  rw [validates, validatesWithin_iff]
  simp only [Shallow, Nat.lt_succ_iff]

end TypeScope

end Dataflow
