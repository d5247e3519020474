import Dataflow.Graph.Wiring
import Dataflow.Type.Validation
/-!
# The values of a type

What validation asks for is said once for each kind of type. What it asks for does not depend on
whether a plugin's type is named bare or qualified (`Plugin.validates_qualify`).
-/

namespace Dataflow

namespace TypeScope

variable {scope : TypeScope} {name declared : String} {fuel : Nat} {value : Json}

theorem validatesWithin_primitive {shape : PrimitiveType} (h : scope.lookup? name = some ⟨declared, .primitive shape⟩) :
    scope.validatesWithin (fuel + 1) value name = shape.matches value := by
  simp only [validatesWithin, h]

theorem validatesWithin_semantic {base : String} {rules : List String}
    (h : scope.lookup? name = some ⟨declared, .semantic base rules⟩) :
    scope.validatesWithin (fuel + 1) value name =
      (scope.validatesWithin fuel value base && rules.all fun rule => scope.checkRule name rule value) := by
  simp only [validatesWithin, h]

theorem validatesWithin_record {fields : OrderedMap String}
    (h : scope.lookup? name = some ⟨declared, .composite fields⟩) :
    scope.validatesWithin (fuel + 1) value name = true ↔
      ∃ members, value = .obj members ∧
        ∀ e ∈ fields.entries, ∃ v, members.lookup e.1 = some v ∧ scope.validatesWithin fuel v e.2 = true := by
  simp only [validatesWithin, h]
  cases value with
  | obj members =>
    simp only [List.all_eq_true, Json.obj.injEq, exists_eq_left']
    refine forall₂_congr fun e _ => ?_
    cases members.lookup e.1 <;> simp
  | _ => simp

theorem validatesWithin_composite {fields : OrderedMap String} {m : SortedMap Json}
    (h : scope.lookup? name = some ⟨declared, .composite fields⟩) :
    scope.validatesWithin (fuel + 1) (.ofMap m) name = true ↔
      ∀ e ∈ fields.entries, ∃ v, m.get? e.1 = some v ∧ scope.validatesWithin fuel v e.2 = true := by
  rw [validatesWithin_record h]
  simp [Json.ofMap, SortedMap.get?]

theorem validatesWithin_unknown (h : scope.lookup? name = none) : scope.validatesWithin fuel value name = false := by
  cases fuel with
  | zero => rfl
  | succ fuel => simp only [validatesWithin, h]

/-- The values of a type depend on its declaration and on its rules. -/
theorem validatesWithin_congr {a b : String} (hlookup : scope.lookup? a = scope.lookup? b)
    (hrule : scope.checkRule a = scope.checkRule b) :
    scope.validatesWithin fuel value a = scope.validatesWithin fuel value b := by
  cases fuel with
  | zero => rfl
  | succ fuel => simp only [validatesWithin, hlookup, hrule]

end TypeScope

/-- A qualified name is split where it was put together. -/
theorem splitQualified_dot {plugin : String} (h : '.' ∉ plugin.toList) (bare : String) :
    splitQualified (plugin ++ "." ++ bare) = (some plugin, bare) := by
  have hdot : ∀ c ∈ plugin.toList, decide (c ≠ '.') = true := fun c hc => by simpa using ne_of_mem_of_not_mem hc h
  have hlist : (plugin ++ "." ++ bare).toList = plugin.toList ++ '.' :: bare.toList := by simp
  unfold splitQualified
  rw [hlist]
  dsimp only
  rw [List.dropWhile_append_of_pos hdot, List.takeWhile_append_of_pos hdot]
  simp

theorem Plugin.validates_qualify {p : Plugin} (h : '.' ∉ p.name.toList) (value : Json) (type : String) :
    p.scope.validates value (qualify p.name type) = p.scope.validates value type := by
  unfold qualify
  cases hsplit : splitQualified type with
  | mk plugin? bare =>
    cases plugin? with
    | some plugin => rfl
    | none =>
      have hdot := splitQualified_dot h bare
      refine TypeScope.validatesWithin_congr ?_ ?_
      · simp only [TypeScope.lookup?, scope, hsplit, hdot, if_true]
      · simp only [scope, hsplit, hdot]

end Dataflow
