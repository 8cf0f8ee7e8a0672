import HydrationPlan.Hydration.Condition
import HydrationPlan.Hydration.Matching

/-!
# Source fields

The paths that must be queried on the source object so that the backing field can be called.
-/

namespace HydrationPlan

namespace Path

/-- The first occurrence of each path. -/
def distinct : List Path → List Path
  | [] => []
  | p :: rest => p :: (distinct rest).filter (· ≠ p)

/-- Drops every path that another one extends. -/
def prune (paths : List Path) : List Path :=
  let unique := distinct paths
  unique.filter fun p => !unique.any p.isStrictPrefixOf

end Path

namespace Schema

/-- What an argument reads: its path, or the path of each field of an object. -/
def argumentPaths (s : Schema) (a : Argument) : List Path :=
  match a.value with
  | .sourceField path sourceType .. =>
    match s.fieldsOf? sourceType.namedType with
    | some fields => fields.keys.map path.child
    | none => [path]
  | _ => []

def sourcePaths (s : Schema) (arguments : List Argument) (matching : Option Matching)
    (condition : Option Path) : List Path :=
  Path.prune <|
    arguments.flatMap s.argumentPaths ++ (matching.map Matching.keyPaths).getD [] ++
      condition.toList

end Schema

end HydrationPlan
