import HydrationPlan.Gateway
import HydrationPlan.Rejection

/-!
# Output types

Every object that the backing field can return must be admitted by the declared type. A virtual
type admits all objects, whatever their name.
-/

namespace HydrationPlan.Gateway

/-- The names that a declared type admits. -/
def admits (g : Gateway) (declared actual : String) : Bool :=
  if g.isVirtual declared then g.engine.isObject actual
  else
    actual == declared ||
      (g.engine.isAbstract declared && (g.engine.possibleTypes declared).contains actual)

def checkOutput (g : Gateway) (declared backing : TypeRef) : Except Rejection Unit :=
  match (g.engine.possibleTypes backing.namedType).find? fun actual =>
      !g.admits declared.namedType actual with
  | some actual => .error (.incompatibleOutputType actual declared.text)
  | none => .ok ()

end HydrationPlan.Gateway
