import HydrationPlan.Hydration.Argument

/-!
# Fan-out of unbatched calls

A source path that crosses a list feeds many values. If the argument takes a single value, the
backing field is called once for each.
-/

namespace HydrationPlan

inductive FanOut
  | oneToOne
  | manyToOne (argument : String)
deriving DecidableEq, Repr

def Argument.fanOutPath? (a : Argument) : Option Path :=
  match a.value with
  | .sourceField path _ yieldsList _ =>
    if yieldsList && !a.backingType.isList then some path else none
  | _ => none

/-- At most one argument may fan out, and only into a field that is a list. -/
def FanOut.resolve (fieldType : TypeRef) (arguments : List Argument) : Except Rejection FanOut :=
  match arguments.filterMap fun a => a.fanOutPath?.map (a.name, ·) with
  | [] => .ok oneToOne
  | [(name, path)] =>
    if fieldType.isList then .ok (manyToOne name) else .error (.cannotSqueezeSourceList name path)
  | fanning => .error (.multipleFanOutArguments (fanning.map (·.1)))

end HydrationPlan
