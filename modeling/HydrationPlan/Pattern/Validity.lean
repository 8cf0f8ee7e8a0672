import HydrationPlan.Pattern.Beginnings
import HydrationPlan.Pattern.Reader
import HydrationPlan.Pattern.Room.Shape
import HydrationPlan.Pattern.Shape.Resolve

/-!
# Valid patterns

A pattern is valid if it can be read, is not nested too deep, has a shape under its flags, and if
its shape is searched by comparing texts or has room for its automata.
-/

namespace HydrationPlan.Pattern

def depthLimit : Nat := 250

def isValid (pattern : String) : Bool :=
  match read? pattern with
  | none => false
  | some expr =>
    expr.depth ≤ depthLimit &&
      match expr.shape? .start with
      | none => false
      | some (shape, _) => shape.fits || shape.isTexts

end HydrationPlan.Pattern
