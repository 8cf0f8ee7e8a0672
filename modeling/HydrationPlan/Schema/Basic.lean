import HydrationPlan.Schema.Definition

/-!
# Schemas

A table of type definitions with a query root. Types are looked up by their keys.
-/

namespace HydrationPlan

structure Schema where
  queryType : Option String
  types : Table String TypeDefinition

def builtinScalars : List String := ["Int", "Float", "String", "Boolean", "ID"]

namespace Schema

def empty : Schema := ⟨none, .empty⟩

instance : Inhabited Schema := ⟨empty⟩

def queryRoot (s : Schema) : String := s.queryType.getD "Query"

def type? (s : Schema) (name : String) : Option TypeDefinition := s.types.get? name

def fielded? (s : Schema) (name : String) : Option FieldedType :=
  s.type? name >>= TypeDefinition.fielded?

def fieldsOf? (s : Schema) (name : String) : Option (Table String Field) :=
  (s.fielded? name).map (·.fields)

def field? (s : Schema) (typeName fieldName : String) : Option Field :=
  s.fieldsOf? typeName >>= (·.get? fieldName)

def inputType? (s : Schema) (name : String) : Option InputType :=
  match s.type? name with
  | some (.inputObject t) => some t
  | _ => none

def enumType? (s : Schema) (name : String) : Option EnumType :=
  match s.type? name with
  | some (.enum t) => some t
  | _ => none

def isScalar (s : Schema) (name : String) : Bool :=
  builtinScalars.contains name ||
    match s.type? name with
    | some (.scalar _) => true
    | _ => false

def isFielded (s : Schema) (name : String) : Bool := (s.fielded? name).isSome

def isObject (s : Schema) (name : String) : Bool := (s.type? name).any TypeDefinition.isObject

def isUnion (s : Schema) (name : String) : Bool := (s.type? name).any TypeDefinition.isUnion

def isAbstract (s : Schema) (name : String) : Bool :=
  match s.type? name with
  | some (.interface _) | some (.union _) => true
  | _ => false

/-- The names of the objects that declare the interface, in table order. -/
def implementors (s : Schema) (interface : String) : List String :=
  s.types.values.filterMap fun
    | .object t => if t.implements.contains interface then some t.name else none
    | _ => none

/-- The object types that a value of the type can have. -/
def possibleTypes (s : Schema) (name : String) : List String :=
  match s.type? name with
  | some (.union t) => t.members
  | some (.interface _) => s.implementors name
  | _ => [name]

def defaultHydration? (s : Schema) (name : String) : Option DefaultHydration :=
  s.fielded? name >>= (·.defaultHydration)

/-! ## Building a schema step by step -/

inductive Step
  | queryType (name : String)
  | type (definition : TypeDefinition)

namespace Step

def scalar (name : String) : Step := type (.scalar ⟨name, none⟩)

def object (t : FieldedType) : Step := type (.object t)

def interface (t : FieldedType) : Step := type (.interface t)

def union (name : String) (members : List String) : Step := type (.union ⟨name, none, members⟩)

def enum (name : String) (values : List String) : Step := type (.enum ⟨name, none, values⟩)

def inputObject (t : InputType) : Step := type (.inputObject t)

end Step

/-- A type is stored under its own name. -/
def apply (s : Schema) : Step → Schema
  | .queryType name => { s with queryType := some name }
  | .type t => { s with types := s.types.insert t.name t }

def build (steps : List Step) : Schema := steps.foldl apply empty

end Schema

end HydrationPlan
