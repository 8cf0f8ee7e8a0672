import HydrationPlan.Schema.Directive
import HydrationPlan.Table
import HydrationPlan.TypeRef

/-!
# Type definitions

Fields, arguments and types carry a name of their own, next to the key under which a table stores
them; the two agree in a schema that is built step by step, but need not in one that is loaded.
-/

namespace HydrationPlan

/-- An argument or a field of an input object. -/
structure InputValue where
  name : String
  description : Option String
  type : TypeRef
  defaultValue : Option Literal

/-- A caller may leave the value out. -/
def InputValue.isOptional (v : InputValue) : Bool := v.type.isNullable || v.defaultValue.isSome

structure Field where
  name : String
  description : Option String
  type : TypeRef
  arguments : Table String InputValue
  hydrated : List Hydrated
  idHydrated : Option IdHydrated

namespace Field

def ofType (name : String) (type : TypeRef) : Field where
  name := name
  description := none
  type := type
  arguments := .empty
  hydrated := []
  idHydrated := none

def withArgument (f : Field) (a : InputValue) : Field :=
  { f with arguments := f.arguments.insert a.name a }

def withHydrated (f : Field) (h : Hydrated) : Field := { f with hydrated := f.hydrated ++ [h] }

def withIdHydrated (f : Field) (h : IdHydrated) : Field := { f with idHydrated := some h }

def isHydrated (f : Field) : Bool := !f.hydrated.isEmpty || f.idHydrated.isSome

end Field

structure ScalarType where
  name : String
  description : Option String

/-- An object or an interface: a type whose values have fields. -/
structure FieldedType where
  name : String
  description : Option String
  fields : Table String Field
  implements : List String
  defaultHydration : Option DefaultHydration

namespace FieldedType

def ofName (name : String) : FieldedType where
  name := name
  description := none
  fields := .empty
  implements := []
  defaultHydration := none

def withField (t : FieldedType) (f : Field) : FieldedType :=
  { t with fields := t.fields.insert f.name f }

def withInterface (t : FieldedType) (name : String) : FieldedType :=
  { t with implements := t.implements ++ [name] }

def withDefaultHydration (t : FieldedType) (d : DefaultHydration) : FieldedType :=
  { t with defaultHydration := some d }

end FieldedType

structure UnionType where
  name : String
  description : Option String
  members : List String

structure EnumType where
  name : String
  description : Option String
  values : List String

def EnumType.hasValue (t : EnumType) (value : String) : Bool := t.values.contains value

structure InputType where
  name : String
  description : Option String
  fields : Table String InputValue

namespace InputType

def ofName (name : String) : InputType where
  name := name
  description := none
  fields := .empty

def withField (t : InputType) (f : InputValue) : InputType :=
  { t with fields := t.fields.insert f.name f }

end InputType

inductive TypeDefinition
  | scalar (t : ScalarType)
  | object (t : FieldedType)
  | interface (t : FieldedType)
  | union (t : UnionType)
  | enum (t : EnumType)
  | inputObject (t : InputType)

namespace TypeDefinition

def name : TypeDefinition → String
  | scalar t => t.name
  | object t => t.name
  | interface t => t.name
  | union t => t.name
  | enum t => t.name
  | inputObject t => t.name

def fielded? : TypeDefinition → Option FieldedType
  | object t => some t
  | interface t => some t
  | _ => none

def isObject : TypeDefinition → Bool
  | object _ => true
  | _ => false

def isUnion : TypeDefinition → Bool
  | union _ => true
  | _ => false

end TypeDefinition

end HydrationPlan
