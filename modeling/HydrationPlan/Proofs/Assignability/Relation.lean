import HydrationPlan.Assignability
import HydrationPlan.Proofs.NameKeyed
import Mathlib.Order.Bounds.Basic

/-!
# Which types may be passed where

An object builds an input object if its fields do, and both may contain themselves. So the relation
between them is no recursion over types: it is the greatest relation whose pairs support each
other. Nothing in this module refers to a walk or to an order of checks.
-/

namespace HydrationPlan

/-- The wrappers fit and the names below them are related. What is never null may be passed where
null is allowed, and lists pair with lists. -/
inductive TypeRef.Fits (leaf : String → String → Prop) : TypeRef → TypeRef → Prop
  | named {x y : String} (h : leaf x y) : Fits leaf (.named x) (.named y)
  | list {t u : TypeRef} (h : Fits leaf t u) : Fits leaf (.list t) (.list u)
  | nullable {t u : TypeRef} (h : Fits leaf t u) : Fits leaf (.nullable t) (.nullable u)
  | intoNullable {t u : TypeRef} (h : Fits leaf t u) : Fits leaf t (.nullable u)

theorem TypeRef.Fits.mono {leaf leaf' : String → String → Prop}
    (hle : ∀ x y, leaf x y → leaf' x y) {t u : TypeRef} (h : Fits leaf t u) : Fits leaf' t u := by
  induction h with
  | named h => exact .named (hle _ _ h)
  | list _ ih => exact .list ih
  | nullable _ ih => exact .nullable ih
  | intoNullable _ ih => exact .intoNullable ih

theorem TypeRef.Fits.namedTypes {leaf : String → String → Prop} {t u : TypeRef}
    (h : Fits leaf t u) : leaf t.namedType u.namedType := by
  induction h with
  | named h => exact h
  | list _ ih => exact ih
  | nullable _ ih => exact ih
  | intoNullable _ ih => exact ih

namespace Schema

variable {s : Schema} {c : Config}

/-- Which names may meet, if `A` relates objects to the input objects that they build. -/
inductive LeafFits (s : Schema) (c : Config) (A : String → String → Prop) :
    String → String → Prop
  | same (x : String) : LeafFits s c A x x
  | enums {x y : String} {a b : EnumType} (hx : s.enumType? x = some a)
      (hy : s.enumType? y = some b)
      (h : c.isEnumOverride x y ∨ ∀ v ∈ a.values, v ∈ b.values) : LeafFits s c A x y
  | builds {x y : String} (hx : s.isFielded x) (hy : (s.inputType? y).isSome) (h : A x y) :
      LeafFits s c A x y
  | scalars {x y : String} (henum : ¬ ((s.enumType? x).isSome ∧ (s.enumType? y).isSome))
      (hbuild : ¬ (s.isFielded x ∧ (s.inputType? y).isSome)) (hx : s.isScalar x)
      (hy : s.isScalar y)
      (h : (x, y) ∈ [("String", "ID"), ("Int", "ID"), ("Long", "ID"), ("ID", "String")]) :
      LeafFits s c A x y

theorem LeafFits.mono {A B : String → String → Prop} (hle : ∀ o i, A o i → B o i) {x y : String}
    (h : s.LeafFits c A x y) : s.LeafFits c B x y := by
  cases h with
  | same => exact .same x
  | enums hx hy h => exact .enums hx hy h
  | builds hx hy h => exact .builds hx hy (hle _ _ h)
  | scalars henum hbuild hx hy h => exact .scalars henum hbuild hx hy h

/-- What an input field asks of the object: a field of its name that fits, or none at all if a
caller may leave the input field out. -/
inductive FieldFits (s : Schema) (c : Config) (A : String → String → Prop) (object : String)
    (f : InputValue) : Prop
  | counterpart {g : Field} (hg : s.field? object f.name = some g)
      (h : TypeRef.Fits (s.LeafFits c A) g.type f.type) : FieldFits s c A object f
  | absent (hg : s.field? object f.name = none)
      (h : f.type.isNullable ∨ f.defaultValue.isSome) : FieldFits s c A object f

theorem FieldFits.mono {A B : String → String → Prop} (hle : ∀ o i, A o i → B o i)
    {object : String} {f : InputValue} (h : s.FieldFits c A object f) :
    s.FieldFits c B object f := by
  cases h with
  | counterpart hg h => exact .counterpart hg (h.mono fun _ _ => LeafFits.mono hle)
  | absent hg h => exact .absent hg h

/-- Every pair of the relation is justified by pairs of the relation. -/
def Supports (s : Schema) (c : Config) (A : String → String → Prop) : Prop :=
  ∀ o i, A o i → ∀ input, s.inputType? i = some input →
    ∀ f ∈ input.fields.values, s.FieldFits c A o f

/-- The object may build the input object. -/
def Builds (s : Schema) (c : Config) (object input : String) : Prop :=
  ∃ A, s.Supports c A ∧ A object input

theorem builds_isGreatest : IsGreatest {A | s.Supports c A} (s.Builds c) := by
  constructor
  · rintro o i ⟨A, hA, hoi⟩ input hi f hf
    exact (hA o i hoi input hi f hf).mono fun o' i' h => ⟨A, hA, h⟩
  · exact fun A hA o i hoi => ⟨A, hA, hoi⟩

/-- May a value of the supplied type be passed where the required type is expected? Values from the
source and arguments of a batched field are compared by the names below their wrappers. -/
structure Assignable (s : Schema) (c : Config) (isBatch : Bool) (kind : SupplyKind)
    (supplied required : TypeRef) : Prop where
  key : isBatch = true → kind = .sourceField → required.listDepth = 1
  names : isBatch = true ∨ kind = .sourceField →
    s.LeafFits c (s.Builds c) supplied.namedType required.namedType
  types : isBatch = false → kind ≠ .sourceField →
    TypeRef.Fits (s.LeafFits c (s.Builds c)) supplied required

end Schema

end HydrationPlan
