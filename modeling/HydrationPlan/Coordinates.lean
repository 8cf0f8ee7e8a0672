/-!
# Field coordinates

A field is identified by the type that declares it and by its name.
-/

namespace HydrationPlan

structure Coordinates where
  typeName : String
  fieldName : String
deriving DecidableEq, Repr

namespace Coordinates

def text (c : Coordinates) : String := c.typeName ++ "." ++ c.fieldName

def compare (a b : Coordinates) : Ordering :=
  (Ord.compare a.typeName b.typeName).then (Ord.compare a.fieldName b.fieldName)

end Coordinates

end HydrationPlan
