import Dataflow.Type.Validation
/-!
# Casts

`TypeScope.cast` turns a value of one type into a value of another. Two spellings of one
declaration are the same type. Two semantic types with the same base are converted by the
plugin of the first, if the value has that type. Nothing else can be cast.
-/

namespace Dataflow.TypeScope

/-- Whether two base names mean the same type: the same declaration, or the same name when
one of them does not resolve. -/
def sameType (scope : TypeScope) (a b : String) : Bool :=
  match scope.resolve? a, scope.resolve? b with
  | some (x, _), some (y, _) => x = y
  | _, _ => a = b

/-- Casts a value from one type to another. -/
def cast (scope : TypeScope) (value : Json) (source target : String) : Except TypeError Json :=
  if source = target then .ok value
  else
    match scope.resolve? source, scope.resolve? target with
    | none, _ => .error (.unknownType source)
    | _, none => .error (.unknownType target)
    | some (x, sourceType), some (y, targetType) =>
      if x = y then .ok value
      else
        match sourceType.base?, targetType.base? with
        | some sourceBase, some targetBase =>
          if !scope.sameType sourceBase targetBase then .error (.unsupportedCast source target)
          else if !scope.validates value source then .error (.invalidValue source)
          else scope.convert value source target
        | _, _ => .error (.unsupportedCast source target)

end Dataflow.TypeScope
