import HydrationPlan.Hydration.FanOut
import HydrationPlan.Hydration.Projection
import HydrationPlan.VirtualTypes

/-!
# Plans

The instructions by which a gateway fills its hydrated fields.
-/

namespace HydrationPlan

/-- The field that is called: the service, the path from its query root, and where the last field
of the path is declared. -/
structure Target where
  service : String
  path : Path
  coordinates : Coordinates
deriving DecidableEq

inductive Strategy
  | single (fanOut : FanOut)
  | batch (matching : Matching) (size : UInt32)
deriving DecidableEq

def Strategy.isBatch : Strategy → Bool
  | single _ => false
  | batch .. => true

def Strategy.matching? : Strategy → Option Matching
  | single _ => none
  | batch matching _ => some matching

structure Instruction where
  location : Coordinates
  target : Target
  arguments : List Argument
  sourceFields : List Path
  condition : Option Condition
  timeoutMillis : Option UInt64
  virtualTypes : Option VirtualTypes
  strategy : Strategy

def Instruction.isBatch (i : Instruction) : Bool := i.strategy.isBatch

/-- The instructions of each hydrated field, one for each of its declarations. -/
structure Plan where
  fields : Table Coordinates (List Instruction)

namespace Plan

def empty : Plan := ⟨.empty⟩

def insert (p : Plan) (c : Coordinates) (instructions : List Instruction) : Plan :=
  ⟨p.fields.insert c instructions⟩

def get? (p : Plan) (c : Coordinates) : Option (List Instruction) := p.fields.get? c

def size (p : Plan) : Nat := p.fields.size

def isEmpty (p : Plan) : Bool := p.fields.isEmpty

end Plan

end HydrationPlan
