import Dataflow.Type.Scope
/-!
# Default values

`TypeScope.createDefault` makes a value of a type: `false`, zero or the empty text for primitive
types; for a semantic type the refined default of its base; for a composite type an object
with the default of every field.
-/

namespace Dataflow

/-- The default of a primitive type. -/
def PrimitiveType.defaultValue : PrimitiveType → Json
  | .boolean => .bool false
  | .integer => .whole 0
  | .string => .str ""

namespace TypeScope

/-- The default of the type, by chains of fewer than `fuel` references. -/
def defaultWithin (scope : TypeScope) : Nat → String → ExceptT TypeError (StateM Supply) Json
  | 0, name => throw (.unknownType name)
  | fuel + 1, name =>
    match scope.lookup? name with
    | none => throw (.unknownType name)
    | some type =>
      match type.kind with
      | .primitive shape => pure shape.defaultValue
      | .semantic base _ => do
        let value ← scope.defaultWithin fuel base
        ExceptT.lift (scope.refineDefault name value)
      | .composite fields => do
        let members ← fields.entries.mapM fun (field, fieldType) => do
          return (field, ← scope.defaultWithin fuel fieldType)
        return .ofMap (.ofList members)

/-- The default of the type. -/
def createDefault (scope : TypeScope) (name : String) : ExceptT TypeError (StateM Supply) Json :=
  scope.defaultWithin (maxTypeDepth + 1) name

end TypeScope

end Dataflow
