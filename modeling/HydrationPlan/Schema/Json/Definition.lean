import HydrationPlan.Json.Held
import HydrationPlan.Schema.Json.Directive
import HydrationPlan.Schema.Basic

/-!
# Type definitions and schemas in JSON

A type definition carries its `kind` as its first member, and is read as a whole: no part of it may
be refused, not even where members are passed over. Types are written in their notation.
-/

namespace HydrationPlan

open Json (record? required optional defaulted memberOf)

def TypeRef.ofJson? (j : Json) : Option TypeRef := do
  match TypeRef.parse (← j.asString?) with
  | .ok t => some t
  | .error _ => none

def TypeRef.toJson (t : TypeRef) : Json := .str t.text

namespace InputValue

def ofJson? (j : Json) : Option InputValue := do
  let r ← record? ["name", "description", "type", "defaultValue"] j
  let name ← required r "name" Json.asString?
  let description ← optional r "description" Json.asString?
  let type ← required r "type" TypeRef.ofJson?
  let defaultValue ← optional r "defaultValue" Literal.ofJson?
  pure { name, description, type, defaultValue }

def toJson (v : InputValue) : Json :=
  .obj <|
    [("name", .str v.name)] ++
    memberOf "description" .str v.description ++
    [("type", v.type.toJson)] ++
    memberOf "defaultValue" Literal.toJson v.defaultValue

end InputValue

namespace Field

def ofJson? (j : Json) : Option Field := do
  let r ← record? ["name", "description", "type", "arguments", "hydrated", "idHydrated"] j
  let name ← required r "name" Json.asString?
  let description ← optional r "description" Json.asString?
  let type ← required r "type" TypeRef.ofJson?
  let arguments ← defaulted r "arguments" .empty (Json.asTable? InputValue.ofJson?)
  let hydrated ← defaulted r "hydrated" [] (Json.asList? Hydrated.ofJson?)
  let idHydrated ← optional r "idHydrated" IdHydrated.ofJson?
  pure { name, description, type, arguments, hydrated, idHydrated }

def toJson (f : Field) : Json :=
  .obj <|
    [("name", .str f.name)] ++
    memberOf "description" .str f.description ++
    [("type", f.type.toJson), ("arguments", Json.ofTable InputValue.toJson f.arguments)] ++
    (if f.hydrated.isEmpty then [] else [("hydrated", .arr (f.hydrated.map Hydrated.toJson))]) ++
    memberOf "idHydrated" IdHydrated.toJson f.idHydrated

end Field

namespace FieldedType

def ofJson? (j : Json) : Option FieldedType := do
  let r ← record? ["name", "description", "fields", "implements", "defaultHydration"] j
  let name ← required r "name" Json.asString?
  let description ← optional r "description" Json.asString?
  let fields ← defaulted r "fields" .empty (Json.asTable? Field.ofJson?)
  let implements ← defaulted r "implements" [] (Json.asList? Json.asString?)
  let defaultHydration ← optional r "defaultHydration" DefaultHydration.ofJson?
  pure { name, description, fields, implements, defaultHydration }

def members (t : FieldedType) : List (String × Json) :=
  [("name", .str t.name)] ++
  memberOf "description" .str t.description ++
  [("fields", Json.ofTable Field.toJson t.fields), ("implements", Json.ofStrings t.implements)] ++
  memberOf "defaultHydration" DefaultHydration.toJson t.defaultHydration

end FieldedType

namespace ScalarType

def ofJson? (j : Json) : Option ScalarType := do
  let r ← record? ["name", "description"] j
  let name ← required r "name" Json.asString?
  let description ← optional r "description" Json.asString?
  pure { name, description }

def members (t : ScalarType) : List (String × Json) :=
  ("name", .str t.name) :: memberOf "description" .str t.description

end ScalarType

namespace UnionType

def ofJson? (j : Json) : Option UnionType := do
  let r ← record? ["name", "description", "members"] j
  let name ← required r "name" Json.asString?
  let description ← optional r "description" Json.asString?
  let members ← required r "members" (Json.asList? Json.asString?)
  pure { name, description, members }

def toMembers (t : UnionType) : List (String × Json) :=
  ("name", .str t.name) :: memberOf "description" .str t.description ++
    [("members", Json.ofStrings t.members)]

end UnionType

namespace EnumType

def ofJson? (j : Json) : Option EnumType := do
  let r ← record? ["name", "description", "values"] j
  let name ← required r "name" Json.asString?
  let description ← optional r "description" Json.asString?
  let values ← required r "values" (Json.asList? Json.asString?)
  pure { name, description, values }

def members (t : EnumType) : List (String × Json) :=
  ("name", .str t.name) :: memberOf "description" .str t.description ++
    [("values", Json.ofStrings t.values)]

end EnumType

namespace InputType

def ofJson? (j : Json) : Option InputType := do
  let r ← record? ["name", "description", "fields"] j
  let name ← required r "name" Json.asString?
  let description ← optional r "description" Json.asString?
  let fields ← defaulted r "fields" .empty (Json.asTable? InputValue.ofJson?)
  pure { name, description, fields }

def members (t : InputType) : List (String × Json) :=
  ("name", .str t.name) :: memberOf "description" .str t.description ++
    [("fields", Json.ofTable InputValue.toJson t.fields)]

end InputType

namespace TypeDefinition

def kind : TypeDefinition → String
  | scalar _ => "scalar"
  | object _ => "object"
  | interface _ => "interface"
  | union _ => "union"
  | enum _ => "enum"
  | inputObject _ => "inputObject"

def ofKind? (kind : String) (j : Json) : Option TypeDefinition :=
  match kind with
  | "scalar" => (ScalarType.ofJson? j).map scalar
  | "object" => (FieldedType.ofJson? j).map object
  | "interface" => (FieldedType.ofJson? j).map interface
  | "union" => (UnionType.ofJson? j).map union
  | "enum" => (EnumType.ofJson? j).map enum
  | "inputObject" => (InputType.ofJson? j).map inputObject
  | _ => none

/-- The kind is a member of the object, or comes first in a list. -/
def ofJson? (j : Json) : Option TypeDefinition :=
  if !j.isHeld then none
  else match j with
    | .obj _ => do ofKind? (← required (← record? ["kind"] j) "kind" Json.asString?) j
    | .arr (.str kind :: items) => ofKind? kind (.arr items)
    | _ => none

def members : TypeDefinition → List (String × Json)
  | scalar t => t.members
  | object t => t.members
  | interface t => t.members
  | union t => t.toMembers
  | enum t => t.members
  | inputObject t => t.members

def toJson (t : TypeDefinition) : Json := .obj (("kind", .str t.kind) :: t.members)

end TypeDefinition

namespace Schema

def ofJson? (j : Json) : Option Schema := do
  let r ← record? ["queryType", "types"] j
  let queryType ← optional r "queryType" Json.asString?
  let types ← defaulted r "types" .empty (Json.asTable? TypeDefinition.ofJson?)
  pure { queryType, types }

def toJson (s : Schema) : Json :=
  .obj <|
    memberOf "queryType" .str s.queryType ++
    [("types", Json.ofTable TypeDefinition.toJson s.types)]

end Schema

end HydrationPlan
