import HydrationPlan.Literal.Json
import HydrationPlan.Schema.Basic

/-!
# Input coercion of literals

A literal is turned into a value of an input type, or refused with the reason. The result is
normalized: single values stand in lists, ids are strings, enum values are enum literals, and
absent input fields have their defaults.
-/

namespace HydrationPlan

inductive LiteralError
  | nullForNonNull (type : String)
  | unexpectedKind (expected found : String)
  | intOutOfRange (value : Int64)
  | unknownEnumValue (enumName value : String)
  | unknownInputField (inputType field : String)
  | missingInputField (inputType field : String)
  | notAnInputType (name : String)
deriving DecidableEq, Repr

def LiteralError.message : LiteralError → String
  | nullForNonNull type => "null is not allowed for `" ++ type ++ "`"
  | unexpectedKind expected found => "expected " ++ expected ++ ", found " ++ found
  | intOutOfRange value => toString value.toInt ++ " does not fit in a 32-bit Int"
  | unknownEnumValue enumName value =>
    "`" ++ value ++ "` is not a value of enum `" ++ enumName ++ "`"
  | unknownInputField inputType field =>
    "input `" ++ inputType ++ "` has no field `" ++ field ++ "`"
  | missingInputField inputType field =>
    "input `" ++ inputType ++ "` requires field `" ++ field ++ "`"
  | notAnInputType name => "`" ++ name ++ "` is not an input type"

/-- How a host turns literals into values of a type. -/
abbrev LiteralRules := Schema → Literal → TypeRef → Except LiteralError Literal

/-- The scalars whose literals are fixed, whatever a schema declares under their names. -/
inductive BuiltinScalar
  | int
  | float
  | string
  | boolean
  | id
deriving DecidableEq, Repr

def BuiltinScalar.ofName? : String → Option BuiltinScalar
  | "Int" => some int
  | "Float" => some float
  | "String" => some string
  | "Boolean" => some boolean
  | "ID" => some id
  | _ => none

namespace Literal

def fitsInt32 (n : Int64) : Bool :=
  Int32.minValue.toInt ≤ n.toInt && n.toInt ≤ Int32.maxValue.toInt

def unexpected (name : String) (v : Literal) : LiteralError :=
  .unexpectedKind ("`" ++ name ++ "`") v.kind

def coerceBuiltin (name : String) (scalar : BuiltinScalar) (v : Literal) :
    Except LiteralError Literal :=
  match scalar, v with
  | .int, int n => if fitsInt32 n then .ok (int n) else .error (.intOutOfRange n)
  | .float, int n => .ok (float (floatOfInt n.toInt))
  | .float, float x => .ok (float x)
  | .string, string s => .ok (string s)
  | .boolean, boolean b => .ok (boolean b)
  | .id, string s => .ok (string s)
  | .id, int n => .ok (string (toString n.toInt))
  | _, v => .error (unexpected name v)

def enumName? : Literal → Option String
  | enum name => some name
  | string name => some name
  | _ => none

def coerceEnum (name : String) (type : EnumType) (v : Literal) : Except LiteralError Literal :=
  match v.enumName? with
  | some value =>
    if type.hasValue value then .ok (enum value) else .error (.unknownEnumValue name value)
  | none => .error (unexpected name v)

theorem sizeOf_entry_lt {name : String} {entries : List (String × Literal)} {v : Literal}
    (h : lookup? name entries = some v) : sizeOf v < sizeOf entries := by
  fun_induction lookup? name entries with
  | case1 => simp at h
  | case2 w rest =>
    cases h
    simp only [List.cons.sizeOf_spec, Prod.mk.sizeOf_spec]
    omega
  | case3 _ w rest _ ih =>
    have := ih h
    simp only [List.cons.sizeOf_spec]
    omega

mutual

def coerce (s : Schema) (v : Literal) (t : TypeRef) : Except LiteralError Literal :=
  match t with
  | .nullable t => if v.isNull then .ok null else coerce s v t
  | .list e =>
    if v.isNull then .error (.nullForNonNull (TypeRef.list e).text)
    else
      match v with
      | list items => (coerceItems s items e).map list
      | single => (coerce s single e).map fun w => list [w]
  | .named name =>
    if v.isNull then .error (.nullForNonNull (TypeRef.named name).text)
    else coerceNamed s v name
termination_by (sizeOf v, sizeOf t)

def coerceItems (s : Schema) (items : List Literal) (e : TypeRef) :
    Except LiteralError (List Literal) :=
  match items with
  | [] => .ok []
  | v :: rest => do pure ((← coerce s v e) :: (← coerceItems s rest e))
termination_by (sizeOf items, 0)

def coerceNamed (s : Schema) (v : Literal) (name : String) : Except LiteralError Literal :=
  match BuiltinScalar.ofName? name with
  | some scalar => coerceBuiltin name scalar v
  | none =>
    match s.type? name with
    | some (.scalar _) => .ok v
    | some (.enum type) => coerceEnum name type v
    | some (.inputObject type) =>
      match v with
      | object entries =>
        match entries.find? fun e => !type.fields.contains e.1 with
        | some unknown => .error (.unknownInputField type.name unknown.1)
        | none => (coerceFields s type.name entries type.fields.values []).map object
      | v => .error (unexpected name v)
    | _ => .error (.notAnInputType name)
termination_by (sizeOf v, 0)

/-- The entries of an input object in declared order, appended to those already `done`. -/
def coerceFields (s : Schema) (typeName : String) (entries : List (String × Literal))
    (fields : List InputValue) (done : List (String × Literal)) :
    Except LiteralError (List (String × Literal)) :=
  match fields with
  | [] => .ok done
  | field :: rest =>
    match h : lookup? field.name entries with
    | some v => do
      have := sizeOf_entry_lt h
      let w ← coerce s v field.type
      coerceFields s typeName entries rest (upsert field.name w done)
    | none =>
      match field.defaultValue with
      | some default => coerceFields s typeName entries rest (upsert field.name default done)
      | none =>
        if field.type.isNullable then coerceFields s typeName entries rest done
        else .error (.missingInputField typeName field.name)
termination_by (sizeOf entries, fields.length)

end

/-- The rules of GraphQL. -/
def rules : LiteralRules := coerce

end Literal

end HydrationPlan
