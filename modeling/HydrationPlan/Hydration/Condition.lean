import HydrationPlan.Hydration.Basic
import HydrationPlan.Pattern.Validity

/-!
# Conditions

A condition selects one of several hydrations by a field of the object that is hydrated. The field
is a string, a whole number or an id, and the test must suit it.
-/

namespace HydrationPlan

inductive Test
  | stringEquals (value : String)
  | intEquals (value : Int64)
  | startsWith (text : String)
  | matchesPattern (pattern : String)
deriving DecidableEq, Repr

structure Condition where
  path : Path
  test : Test

inductive TestableScalar
  | string
  | int
  | id
deriving DecidableEq, Repr

namespace TestableScalar

def ofName? : String → Option TestableScalar
  | "String" => some string
  | "Int" | "Long" => some int
  | "ID" => some id
  | _ => none

def ofType? : TypeRef → Option TestableScalar
  | .named name => ofName? name
  | _ => none

def isStringLike : TestableScalar → Bool
  | string | id => true
  | int => false

def isIntLike : TestableScalar → Bool
  | int | id => true
  | string => false

end TestableScalar

def Test.ofPredicate (path : Path) (fieldType : String) (scalar : TestableScalar) :
    Predicate → Except Rejection Test
  | .equals (.string value) =>
    if scalar.isStringLike then .ok (.stringEquals value)
    else .error (.incompatibleValue path fieldType (Text.quoted value))
  | .equals (.int value) =>
    if scalar.isIntLike then .ok (.intEquals value)
    else .error (.incompatibleValue path fieldType (Literal.int value).text)
  | .equals value => .error (.incompatibleValue path fieldType value.text)
  | .startsWith text =>
    if scalar.isStringLike then .ok (.startsWith text)
    else .error (.incompatibleValue path fieldType (Text.quoted text))
  | .matchesPattern pattern =>
    if scalar.isStringLike then
      if Pattern.isValid pattern then .ok (.matchesPattern pattern)
      else .error (.invalidRegex pattern)
    else .error (.incompatibleValue path fieldType (Text.quoted pattern))

namespace Condition

/-- The type that is tested. Of a correlation key each element is tested on its own. -/
def testedType (type : TypeRef) (isKey : Bool) : TypeRef :=
  if isKey then type.nonNull.stripLists else type.nonNull

def resolve (site : Site) (w : When) (batchKey : Option Path) : Except Rejection Condition :=
  let notFound : Except Rejection Condition :=
    .error (.conditionFieldNotFound site.parentType w.sourceField)
  match Path.parse w.sourceField with
  | .error _ => notFound
  | .ok path =>
    match site.sourceField? path with
    | none => notFound
    | some reached =>
      let type := reached.field.type
      match TestableScalar.ofType? (testedType type (batchKey == some path)) with
      | none => .error (.unsupportedConditionFieldType path type.text)
      | some scalar =>
        (Test.ofPredicate path type.text scalar w.predicate).map fun test => ⟨path, test⟩

end Condition

end HydrationPlan
