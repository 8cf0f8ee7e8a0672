import HydrationPlan.Path
import HydrationPlan.Schema.Directive

/-!
# Hydration declarations

A directive with its references resolved: paths instead of dotted texts, and the source of each
argument instead of a string that names it.
-/

namespace HydrationPlan

inductive Supply
  | sourceField (path : Path)
  | fieldArgument (name : String)
  | static (value : Literal)
  | remainingArguments

inductive SupplyKind
  | sourceField
  | fieldArgument
  | static
  | remainingArguments
deriving DecidableEq, Repr

def Supply.kind : Supply → SupplyKind
  | sourceField _ => .sourceField
  | fieldArgument _ => .fieldArgument
  | static _ => .static
  | remainingArguments => .remainingArguments

def Supply.sourcePath? : Supply → Option Path
  | sourceField path => some path
  | _ => none

def Supply.argumentName? : Supply → Option String
  | fieldArgument name => some name
  | _ => none

structure DeclaredArgument where
  name : String
  supply : Supply

structure Declaration where
  service : String
  backingPath : Path
  arguments : List DeclaredArgument
  condition : Option When
  identifiedBy : Option String
  inputIdentifiedBy : List IdentifierPair
  indexed : Bool
  batchSize : Option UInt32
  timeoutMillis : Option UInt64

def Declaration.sourceArguments (d : Declaration) : List (DeclaredArgument × Path) :=
  d.arguments.filterMap fun a => a.supply.sourcePath?.map (a, ·)

end HydrationPlan
