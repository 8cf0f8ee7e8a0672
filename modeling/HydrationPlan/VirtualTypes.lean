import HydrationPlan.Schema.Basic
import HydrationPlan.Walk

/-!
# Virtual types

A virtual type is served by the backing type of the field that returns it, and so are the types
nested below it: wherever a field of a virtual type has a counterpart on its backing type, the
types of the two fields are paired too.
-/

namespace HydrationPlan

/-- The first partner met on either side. -/
structure VirtualTypes where
  virtualToBacking : Table String String
  backingToVirtual : Table String String

namespace VirtualTypes

def empty : VirtualTypes := ⟨.empty, .empty⟩

def pair (m : VirtualTypes) (p : String × String) : VirtualTypes where
  virtualToBacking := m.virtualToBacking.insertNew p.1 p.2
  backingToVirtual := m.backingToVirtual.insertNew p.2 p.1

def ofPairs (pairs : List (String × String)) : VirtualTypes := pairs.foldl pair empty

def backingType? (m : VirtualTypes) (virtualType : String) : Option String :=
  m.virtualToBacking.get? virtualType

def virtualType? (m : VirtualTypes) (backingType : String) : Option String :=
  m.backingToVirtual.get? backingType

end VirtualTypes

namespace Schema

/-- The pair of types below a field and its counterpart. Hydrated fields have no counterpart. -/
def nestedPair? (s : Schema) (backing : Table String Field) (f : Field) :
    Option (String × String) :=
  if f.isHydrated then none
  else
    match backing.get? f.name with
    | none => none
    | some g =>
      let below := (f.type.namedType, g.type.namedType)
      if s.isFielded below.1 && s.isFielded below.2 then some below else none

def nestedPairs (s : Schema) (p : String × String) : List (String × String) :=
  match s.fieldsOf? p.1, s.fieldsOf? p.2 with
  | some fields, some backing => fields.values.filterMap (s.nestedPair? backing)
  | _, _ => []

def fieldedNames (s : Schema) : List String := s.types.keys.filter s.isFielded

/-- All pairs that the schema can form, and the one to start from. -/
def pairKeys (s : Schema) (start : String × String) : List (String × String) :=
  start :: s.fieldedNames.flatMap fun v => s.fieldedNames.map fun b => (v, b)

def pairWalk (s : Schema) (start : String × String) : Walk (String × String) Empty :=
  Walk.run id (fun p => (s.nestedPairs p).map .ok) (s.pairKeys start) [.ok start]

def virtualTypes (s : Schema) (virtualType backingType : String) : VirtualTypes :=
  .ofPairs (s.pairWalk (virtualType, backingType)).visited

end Schema

end HydrationPlan
