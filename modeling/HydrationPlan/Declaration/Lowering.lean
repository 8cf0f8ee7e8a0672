import HydrationPlan.Declaration.Basic
import HydrationPlan.Rejection

/-!
# From directives to declarations

A string argument that starts with `$source.` or `$argument.` is a reference. Every other literal
stands for itself, other strings with a dollar sign included.
-/

namespace HydrationPlan

def sourceMark : String := "$source."

def argumentMark : String := "$argument."

def remainingMark : String := "$argument.*"

def afterMark? (mark text : String) : Option String :=
  (mark.toList.isPrefixOf? text.toList).map String.ofList

/-- Reads a string argument; an ill-formed reference gives the reason. -/
def Supply.ofText (text : String) : Except String Supply :=
  match afterMark? sourceMark text with
  | some path => ((Path.parse path).mapError Path.Error.message).map sourceField
  | none =>
    if text = remainingMark then .ok remainingArguments
    else
      match afterMark? argumentMark text with
      | some name =>
        if name.isEmpty || name.toList.contains '.' then .error "expected `$argument.<name>`"
        else .ok (fieldArgument name)
      | none => .ok (static (.string text))

def Supply.ofLiteral : Literal → Except String Supply
  | .string text => ofText text
  | value => .ok (static value)

def DeclaredArgument.ofBinding (a : ArgumentBinding) : Except Rejection DeclaredArgument :=
  match Supply.ofLiteral a.value with
  | .ok supply => .ok ⟨a.name, supply⟩
  | .error reason => .error (.invalidArgumentValue a.name a.value.text reason)

namespace Declaration

def backingPath? (service field : String) : Except Rejection Path :=
  (Path.parse field).mapError fun _ => .backingFieldNotFound service field

def ofHydrated (h : Hydrated) : Except Rejection Declaration := do
  let backingPath ← backingPath? h.service h.field
  let arguments ← h.arguments.mapM DeclaredArgument.ofBinding
  pure
    { service := h.service
      backingPath := backingPath
      arguments := arguments
      condition := h.condition
      identifiedBy := h.identifiedBy
      inputIdentifiedBy := h.inputIdentifiedBy
      indexed := h.indexed
      batchSize := h.batchSize
      timeoutMillis := h.timeout }

/-- The id field feeds the one argument of the default hydration. -/
def ofDefault (d : DefaultHydration) (h : IdHydrated) : Except Rejection Declaration := do
  let idPath ← (Path.parse h.idField).mapError fun e =>
    .invalidArgumentValue d.idArgument h.idField e.message
  let backingPath ← backingPath? d.service d.field
  pure
    { service := d.service
      backingPath := backingPath
      arguments := [⟨d.idArgument, .sourceField idPath⟩]
      condition := none
      identifiedBy := h.identifiedBy <|> d.identifiedBy
      inputIdentifiedBy := []
      indexed := false
      batchSize := d.batchSize
      timeoutMillis := d.timeout }

end Declaration

end HydrationPlan
