import HydrationPlan.Assignability
import HydrationPlan.Hydration.Basic
import HydrationPlan.Literal.Coercion

/-!
# Arguments of a backing field

Each declared argument is tied to the argument of the backing field that it fills, and the value it
supplies is checked against that argument's type.
-/

namespace HydrationPlan

/-- How an object fills an input object: the input fields that it has, in input order. -/
structure InputShape where
  objectType : String
  inputType : String
  fields : List String
deriving DecidableEq, Repr

inductive ArgumentValue
  | sourceField (path : Path) (sourceType : TypeRef) (yieldsList : Bool)
      (shape : Option InputShape)
  | fieldArgument (name : String) (type : TypeRef) (defaultValue : Option Literal)
  | static (value : Literal)
  | remainingArguments (names : List String)

structure Argument where
  name : String
  backingType : TypeRef
  value : ArgumentValue

def Argument.sourcePath? (a : Argument) : Option Path :=
  match a.value with
  | .sourceField path .. => some path
  | _ => none

/-- A required input field that the object lacks, although the types were found assignable. -/
structure ShapeGap where
  objectType : String
  inputType : String
  inputField : String
deriving DecidableEq, Repr

def ShapeGap.message (g : ShapeGap) : String :=
  s!"input field `{g.inputType}.{g.inputField}` has no counterpart on `{g.objectType}`"

/-- Why a hydration yields no instruction: it is refused, or an input cannot be shaped. -/
inductive Stop
  | rejected (cause : Rejection)
  | gap (gap : ShapeGap)

abbrev Checked := Except Stop

instance : MonadLift (Except Rejection) Checked where
  monadLift := Except.mapError .rejected

namespace Schema

def sharedFields (objectType inputType : String) (fields : Table String Field) :
    List InputValue → Except ShapeGap (List String)
  | [] => .ok []
  | f :: rest =>
    if fields.contains f.name then
      (sharedFields objectType inputType fields rest).map (f.name :: ·)
    else if f.isOptional then sharedFields objectType inputType fields rest
    else .error ⟨objectType, inputType, f.name⟩

/-- There is a shape exactly if the source is an object and the backing argument takes an input
object. -/
def inputShape (s : Schema) (source backing : TypeRef) : Except ShapeGap (Option InputShape) :=
  match s.inputType? backing.namedType, s.fieldsOf? source.namedType with
  | some input, some fields =>
    (sharedFields source.namedType input.name fields input.fields.values).map fun names =>
      some ⟨source.namedType, input.name, names⟩
  | _, _ => .ok none

end Schema

/-- The first member of a list that occurs again before it. -/
def firstRepeated? (seen : List String) : List String → Option String
  | [] => none
  | x :: rest => if seen.contains x then some x else firstRepeated? (x :: seen) rest

namespace Hydration

/-- Checks on the arguments as a whole: none is targeted twice, none that is required is missing,
and a batched field has exactly one correlation key. -/
def checkArgumentSet (h : Hydration) : Except Rejection Unit :=
  let names := h.declaration.arguments.map (·.name)
  match firstRepeated? [] names with
  | some name => .error (.duplicateArgument name)
  | none =>
    match h.backing.field.arguments.values.find? fun a =>
        !a.isOptional && !names.contains a.name with
    | some missing => .error (.missingRequiredBackingArgument missing.name)
    | none =>
      if h.isBatch then
        match h.declaration.sourceArguments.map fun a => a.1.name with
        | [] => .error .missingSourceField
        | [_] => .ok ()
        | sources => .error (.multipleSourceFields sources)
      else .ok ()

/-- The arguments of the hydrated field that no declared argument reads by name. -/
def remainingArguments (h : Hydration) : List String :=
  let read := h.declaration.arguments.filterMap (·.supply.argumentName?)
  h.site.field.arguments.keys.filter fun name => !read.contains name

def normalizedDefault (rules : LiteralRules) (s : Schema) (a : InputValue) :
    Except Rejection (Option Literal) :=
  match a.defaultValue with
  | none => .ok none
  | some value =>
    match rules s value a.type with
    | .ok v => .ok (some v)
    | .error e => .error (.invalidArgumentValue a.name value.text e.message)

def resolveSupply (rules : LiteralRules) (h : Hydration) (a : DeclaredArgument)
    (backingType : TypeRef) : Checked ArgumentValue := do
  let check (supplied : TypeRef) : Except Rejection Unit :=
    (h.engine.checkAssignable h.site.config h.isBatch a.supply.kind supplied backingType).mapError
      (Mismatch.rejection a.name)
  match a.supply with
  | .sourceField path =>
    match h.site.sourceField? path with
    | none => throw (.rejected (.sourceFieldNotFound h.site.parentType path))
    | some reached =>
      check reached.field.type
      let shape ← (h.engine.inputShape reached.field.type backingType).mapError .gap
      pure (.sourceField path reached.field.type reached.yieldsList shape)
  | .fieldArgument name =>
    match h.site.field.arguments.get? name with
    | none => throw (.rejected (.virtualArgumentNotFound name))
    | some argument =>
      check argument.type
      let default ← normalizedDefault rules h.engine argument
      pure (.fieldArgument name argument.type default)
  | .static value =>
    match rules h.engine value backingType with
    | .ok v => pure (.static v)
    | .error e =>
      throw (.rejected (.staticValueNotAssignable a.name value.text backingType.text e.message))
  | .remainingArguments => pure (.remainingArguments h.remainingArguments)

def resolveArgument (rules : LiteralRules) (h : Hydration) (a : DeclaredArgument) :
    Checked Argument :=
  match h.backing.field.arguments.get? a.name with
  | none => throw (.rejected (.backingArgumentNotFound h.backing.path.text a.name))
  | some backing => do pure ⟨a.name, backing.type, ← h.resolveSupply rules a backing.type⟩

def resolveArguments (rules : LiteralRules) (h : Hydration) : Checked (List Argument) := do
  h.checkArgumentSet
  h.declaration.arguments.mapM (h.resolveArgument rules)

end Hydration

end HydrationPlan
