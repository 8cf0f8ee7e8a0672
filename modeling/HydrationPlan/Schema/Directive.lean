import HydrationPlan.Literal.Basic

/-!
# Hydration directives

The annotations that a merged schema carries: `@hydrated` on a field, once per backing field,
`@defaultHydration` on a type, and `@idHydrated` on a field whose type has a default hydration.
-/

namespace HydrationPlan

/-- One argument of a directive: a reference written as a string, or a literal. -/
structure ArgumentBinding where
  name : String
  value : Literal

/-- A field of the source whose value identifies a result by one of its fields. -/
structure IdentifierPair where
  sourceId : String
  resultId : String
deriving DecidableEq, Repr

inductive Predicate
  | equals (value : Literal)
  | startsWith (text : String)
  | matchesPattern (pattern : String)

/-- A test on a field of the object that is hydrated. -/
structure When where
  sourceField : String
  predicate : Predicate

/-- The directive `@hydrated`. The backing field is a dotted path from the query root. -/
structure Hydrated where
  service : String
  field : String
  arguments : List ArgumentBinding
  identifiedBy : Option String
  inputIdentifiedBy : List IdentifierPair
  indexed : Bool
  batchSize : Option UInt32
  timeout : Option UInt64
  condition : Option When

/-- The directive `@defaultHydration`: how objects of a type are fetched by their id. -/
structure DefaultHydration where
  service : String
  field : String
  idArgument : String
  identifiedBy : Option String
  batchSize : Option UInt32
  timeout : Option UInt64
deriving DecidableEq, Repr

/-- The directive `@idHydrated`: which field holds the id. -/
structure IdHydrated where
  idField : String
  identifiedBy : Option String
deriving DecidableEq, Repr

namespace Hydrated

def ofBacking (service field : String) : Hydrated where
  service := service
  field := field
  arguments := []
  identifiedBy := none
  inputIdentifiedBy := []
  indexed := false
  batchSize := none
  timeout := none
  condition := none

def withArgument (h : Hydrated) (name : String) (value : Literal) : Hydrated :=
  { h with arguments := h.arguments ++ [⟨name, value⟩] }

def withIdentifiedBy (h : Hydrated) (resultId : String) : Hydrated :=
  { h with identifiedBy := some resultId }

def withIdentifierPair (h : Hydrated) (sourceId resultId : String) : Hydrated :=
  { h with inputIdentifiedBy := h.inputIdentifiedBy ++ [⟨sourceId, resultId⟩] }

def withIndexed (h : Hydrated) : Hydrated := { h with indexed := true }

def withBatchSize (h : Hydrated) (size : UInt32) : Hydrated := { h with batchSize := some size }

def withTimeout (h : Hydrated) (millis : UInt64) : Hydrated := { h with timeout := some millis }

def withCondition (h : Hydrated) (condition : When) : Hydrated :=
  { h with condition := some condition }

end Hydrated

namespace DefaultHydration

def ofBacking (service field idArgument : String) : DefaultHydration where
  service := service
  field := field
  idArgument := idArgument
  identifiedBy := none
  batchSize := none
  timeout := none

def withIdentifiedBy (d : DefaultHydration) (resultId : String) : DefaultHydration :=
  { d with identifiedBy := some resultId }

def withBatchSize (d : DefaultHydration) (size : UInt32) : DefaultHydration :=
  { d with batchSize := some size }

end DefaultHydration

end HydrationPlan
