import HydrationPlan.Hydration.Argument

/-!
# Matching batch results

Each item of a batch result is matched with the object that asked for it, by its position or by
identifiers.
-/

namespace HydrationPlan

structure Identifier where
  sourceId : Path
  resultId : String
deriving DecidableEq

inductive Matching
  | index
  | identifier (id : Identifier)
  | identifiers (ids : List Identifier)
deriving DecidableEq

def Matching.keyPaths : Matching → List Path
  | index => []
  | identifier id => [id.sourceId]
  | identifiers ids => ids.map (·.sourceId)

/-- The correlation key: the path of the first argument read from the source. -/
def batchKey? (arguments : List Argument) : Option Path := arguments.findSome? (·.sourcePath?)

namespace Matching

/-- A source id extends the correlation key and exists on the source. -/
def resolveIdentifier (site : Site) (key : Path) (p : IdentifierPair) :
    Except Rejection Identifier :=
  match Path.parse p.sourceId with
  | .error _ => .error (.invalidSourceId p.sourceId key)
  | .ok sourceId =>
    if !key.isPrefixOf sourceId then .error (.invalidSourceId p.sourceId key)
    else if (site.sourceField? sourceId).isNone then
      .error (.sourceFieldNotFound site.parentType sourceId)
    else .ok ⟨sourceId, p.resultId⟩

def resolve (site : Site) (d : Declaration) (arguments : List Argument) :
    Except Rejection Matching :=
  if d.indexed then .ok index
  else
    match batchKey? arguments with
    | none => .error .missingSourceField
    | some key =>
      if !d.inputIdentifiedBy.isEmpty then
        (d.inputIdentifiedBy.mapM (resolveIdentifier site key)).map identifiers
      else
        match d.identifiedBy with
        | some resultId => .ok (identifier ⟨key, resultId⟩)
        | none => .error .missingIdentifiedBy

end Matching

end HydrationPlan
