import HydrationPlan.Path
import HydrationPlan.Schema.Basic

/-!
# Following field names through a schema
-/

namespace HydrationPlan

/-- A field reached by a path; `yieldsList` says that some field on the way is a list. -/
structure Reached where
  field : Field
  yieldsList : Bool

namespace Schema

def follow? (s : Schema) (typeName : String) : List String → Option Reached
  | [] => none
  | [name] => (s.field? typeName name).map fun f => ⟨f, f.type.isList⟩
  | name :: rest => do
    let f ← s.field? typeName name
    let r ← s.follow? f.type.namedType rest
    pure ⟨r.field, f.type.isList || r.yieldsList⟩

/-- The last field of a path together with the type that declares it. All fields before it must
return objects or interfaces. -/
def locate? (s : Schema) (typeName : String) : List String → Option (String × Field)
  | [] => none
  | [name] => (s.field? typeName name).map fun f => (typeName, f)
  | name :: rest => do
    let f ← s.field? typeName name
    if s.isFielded f.type.namedType then s.locate? f.type.namedType rest else none

end Schema

end HydrationPlan
