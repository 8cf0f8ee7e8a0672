import HydrationPlan.Config
import HydrationPlan.Declaration.Basic
import HydrationPlan.Rejection
import HydrationPlan.Schema.Basic
import HydrationPlan.Walk

/-!
# Assignability of types

May a value of the supplied type be passed where a required type is expected? Wrappers are peeled
off first; then the named types meet. An object may build an input object, field by field, which
leads to further pairs of types; every pair is checked once.
-/

namespace HydrationPlan

inductive Mismatch
  | incompatibleInputType (supplied required : String)
  | invalidBatchIdShape (required : String)
  | missingInputField (suppliedType inputType inputField : String)
  | incompatibleField (suppliedType suppliedField inputType inputField : String)
deriving DecidableEq, Repr

def Mismatch.rejection (argument : String) : Mismatch → Rejection
  | incompatibleInputType supplied required => .incompatibleInputType argument supplied required
  | invalidBatchIdShape required => .invalidBatchIdShape argument required
  | missingInputField suppliedType inputType inputField =>
    .missingInputField argument suppliedType inputType inputField
  | incompatibleField suppliedType suppliedField inputType inputField =>
    .incompatibleField argument suppliedType suppliedField inputType inputField

/-- The names that meet once both types are unwrapped, if their wrappers fit. A non-null value may
fill a nullable slot, and lists pair with lists. -/
def TypeRef.meet? : TypeRef → TypeRef → Option (String × String)
  | .nullable s, .nullable r => meet? s r
  | s, .nullable r => meet? s r
  | .list s, .list r => meet? s r
  | .named s, .named r => some (s, r)
  | _, _ => none

/-- An object that is to build an input object. The object is known by the name it carries. -/
structure InputPair where
  object : String
  input : InputType

def InputPair.key (p : InputPair) : String × String := (p.object, p.input.name)

inductive Meeting
  | fits
  | clashes
  | builds (pair : InputPair)

namespace Schema

def coercibleScalars : List (String × String) :=
  [("String", "ID"), ("Int", "ID"), ("Long", "ID"), ("ID", "String")]

def enumFits (c : Config) (suppliedName requiredName : String) (supplied required : EnumType) :
    Bool :=
  c.isEnumOverride suppliedName requiredName || supplied.values.all required.hasValue

/-- What happens where two named types meet. -/
def meeting (s : Schema) (c : Config) (supplied required : String) : Meeting :=
  if supplied = required then .fits
  else
    match s.enumType? supplied, s.enumType? required with
    | some a, some b => if enumFits c supplied required a b then .fits else .clashes
    | _, _ =>
      match s.fielded? supplied, s.inputType? required with
      | some object, some input => .builds ⟨object.name, input⟩
      | _, _ =>
        if s.isScalar supplied && s.isScalar required &&
            coercibleScalars.contains (supplied, required) then .fits
        else .clashes

/-- What an input field asks of the object: nothing, a further pair, or more than it has. -/
def inputFieldStep (s : Schema) (c : Config) (p : InputPair) (f : InputValue) :
    Option (Except Mismatch InputPair) :=
  match s.field? p.object f.name with
  | none =>
    if f.isOptional then none
    else some (.error (.missingInputField p.object p.input.name f.name))
  | some o =>
    let clash : Option (Except Mismatch InputPair) :=
      some (.error (.incompatibleField p.object o.name p.input.name f.name))
    match o.type.meet? f.type with
    | none => clash
    | some (supplied, required) =>
      match s.meeting c supplied required with
      | .fits => none
      | .clashes => clash
      | .builds pair => some (.ok pair)

def inputSteps (s : Schema) (c : Config) (p : InputPair) : List (Except Mismatch InputPair) :=
  p.input.fields.values.filterMap (s.inputFieldStep c p)

def inputKeys (s : Schema) : List (String × String) :=
  let objects := s.types.values.filterMap fun t => t.fielded?.map (·.name)
  let inputs := s.types.values.filterMap fun
    | .inputObject t => some t.name
    | _ => none
  objects.flatMap fun o => inputs.map fun i => (o, i)

def inputWalk (s : Schema) (c : Config) (p : InputPair) : Walk InputPair Mismatch :=
  Walk.run InputPair.key (s.inputSteps c) s.inputKeys [.ok p]

/-- A value read from the source is compared by its named type alone, and so is every argument of
a batched field, whose correlation key must be a single list. -/
def checkAssignable (s : Schema) (c : Config) (isBatch : Bool) (kind : SupplyKind)
    (supplied required : TypeRef) : Except Mismatch Unit :=
  let clash : Except Mismatch Unit :=
    .error (.incompatibleInputType supplied.text required.text)
  if isBatch && kind == .sourceField && required.listDepth != 1 then
    .error (.invalidBatchIdShape required.text)
  else
    let names :=
      if isBatch || kind == .sourceField then some (supplied.namedType, required.namedType)
      else supplied.meet? required
    match names with
    | none => clash
    | some (a, b) =>
      match s.meeting c a b with
      | .fits => .ok ()
      | .clashes => clash
      | .builds pair =>
        match (s.inputWalk c pair).fault with
        | some mismatch => .error mismatch
        | none => .ok ()

end Schema

end HydrationPlan
