import Dataflow.Type.Scope
/-!
# Which values a type has

`TypeScope.validates` decides whether a value has a type. Whole numbers are integers, floats
never are. A semantic type has the values of its base that satisfy all its rules; a composite
type has the objects that hold a value of the right type for every field, whatever else they hold.
-/

namespace Dataflow

/-- Whether the value has the shape of a primitive type. -/
def PrimitiveType.matches : PrimitiveType → Json → Bool
  | .boolean, .bool _ => true
  | .integer, .whole _ => true
  | .string, .str _ => true
  | _, _ => false

namespace TypeScope

/-- Whether the value has the type, by chains of fewer than `fuel` references. -/
def validatesWithin (scope : TypeScope) : Nat → Json → String → Bool
  | 0, _, _ => false
  | fuel + 1, value, name =>
    match scope.lookup? name with
    | none => false
    | some type =>
      match type.kind with
      | .primitive shape => shape.matches value
      | .semantic base rules =>
        scope.validatesWithin fuel value base &&
          rules.all fun rule => scope.checkRule name rule value
      | .composite fields =>
        match value with
        | .obj members =>
          fields.entries.all fun (field, fieldType) =>
            match members.lookup field with
            | some v => scope.validatesWithin fuel v fieldType
            | none => false
        | _ => false

/-- Whether the value has the type. -/
def validates (scope : TypeScope) (value : Json) (name : String) : Bool :=
  scope.validatesWithin (maxTypeDepth + 1) value name

end TypeScope

end Dataflow
