import HydrationPlan.Proofs.Table
import HydrationPlan.Schema.Basic

/-!
# Schemas that are keyed by name

A schema that is loaded may store a type, a field or an argument under a key that is not its name.
Each law asks only for the agreement of keys and names that it needs.
-/

namespace HydrationPlan

/-- Every value is stored under its own name. -/
def Table.NamedBy {α : Type} (name : α → String) (t : Table String α) : Prop :=
  ∀ e ∈ t.entries, name e.2 = e.1

instance {α : Type} (name : α → String) (t : Table String α) : Decidable (t.NamedBy name) :=
  inferInstanceAs (Decidable (∀ e ∈ t.entries, name e.2 = e.1))

theorem Table.NamedBy.map_name_values {α : Type} {name : α → String} {t : Table String α}
    (h : t.NamedBy name) : t.values.map name = t.keys := by
  simp only [values, keys, List.map_map]
  exact List.map_congr_left h

theorem Table.NamedBy.name_eq {α : Type} {name : α → String} {t : Table String α}
    (h : t.NamedBy name) {k : String} {v : α} (hv : t.get? k = some v) : name v = k :=
  h _ ((t.get?_eq_some_iff k v).mp hv)

def TypeDefinition.input? : TypeDefinition → Option InputType
  | inputObject t => some t
  | _ => none

namespace Schema

variable {s : Schema}

/-- Every object and interface is stored under its own name. -/
def ObjectsKeyed (s : Schema) : Prop :=
  ∀ e ∈ s.types.entries, ∀ t ∈ e.2.fielded?, t.name = e.1

/-- Every input object is stored under its own name. -/
def InputsKeyed (s : Schema) : Prop := ∀ e ∈ s.types.entries, ∀ t ∈ e.2.input?, t.name = e.1

/-- Every field of an object or interface is stored under its own name. -/
def FieldsKeyed (s : Schema) : Prop :=
  ∀ e ∈ s.types.entries, ∀ t ∈ e.2.fielded?, t.fields.NamedBy Field.name

/-- Every argument of such a field is stored under its own name. -/
def ArgumentsKeyed (s : Schema) : Prop :=
  ∀ e ∈ s.types.entries, ∀ t ∈ e.2.fielded?, ∀ f ∈ t.fields.values,
    f.arguments.NamedBy InputValue.name

instance : Decidable s.ObjectsKeyed :=
  inferInstanceAs (Decidable (∀ e ∈ s.types.entries, ∀ t ∈ e.2.fielded?, t.name = e.1))

instance : Decidable s.InputsKeyed :=
  inferInstanceAs (Decidable (∀ e ∈ s.types.entries, ∀ t ∈ e.2.input?, t.name = e.1))

instance : Decidable s.FieldsKeyed :=
  inferInstanceAs
    (Decidable (∀ e ∈ s.types.entries, ∀ t ∈ e.2.fielded?, t.fields.NamedBy Field.name))

instance : Decidable s.ArgumentsKeyed :=
  inferInstanceAs (Decidable (∀ e ∈ s.types.entries, ∀ t ∈ e.2.fielded?, ∀ f ∈ t.fields.values,
    f.arguments.NamedBy InputValue.name))

/-- Types, fields and arguments are stored under their own names. -/
structure NameKeyed (s : Schema) : Prop where
  types : s.types.NamedBy TypeDefinition.name
  fields : s.FieldsKeyed
  arguments : s.ArgumentsKeyed

theorem fielded?_eq_some {name : String} {t : FieldedType} (h : s.fielded? name = some t) :
    ∃ d, (name, d) ∈ s.types.entries ∧ d.fielded? = some t := by
  obtain ⟨d, hd, ht⟩ := Option.bind_eq_some_iff.mp h
  exact ⟨d, (s.types.get?_eq_some_iff name d).mp hd, ht⟩

theorem inputType?_eq_some {name : String} {t : InputType} (h : s.inputType? name = some t) :
    (name, .inputObject t) ∈ s.types.entries := by
  unfold inputType? at h
  split at h
  · rename_i u hu
    cases h
    exact (s.types.get?_eq_some_iff _ _).mp hu
  · cases h

theorem field?_eq_some {typeName fieldName : String} {f : Field}
    (h : s.field? typeName fieldName = some f) :
    ∃ t d, (typeName, d) ∈ s.types.entries ∧ d.fielded? = some t ∧ f ∈ t.fields.values := by
  obtain ⟨fields, hfields, hf⟩ := Option.bind_eq_some_iff.mp h
  obtain ⟨t, ht, rfl⟩ := Option.map_eq_some_iff.mp hfields
  obtain ⟨d, hd, hdt⟩ := fielded?_eq_some ht
  exact ⟨t, d, hd, hdt, Table.mem_values_of_mem ((Table.get?_eq_some_iff ..).mp hf)⟩

theorem ObjectsKeyed.name_eq (hs : s.ObjectsKeyed) {name : String} {t : FieldedType}
    (h : s.fielded? name = some t) : t.name = name := by
  obtain ⟨d, hd, ht⟩ := fielded?_eq_some h
  exact hs _ hd t ht

theorem InputsKeyed.name_eq (hs : s.InputsKeyed) {name : String} {t : InputType}
    (h : s.inputType? name = some t) : t.name = name :=
  hs _ (inputType?_eq_some h) t rfl

theorem FieldsKeyed.namedBy (hs : s.FieldsKeyed) {name : String} {fields : Table String Field}
    (h : s.fieldsOf? name = some fields) : fields.NamedBy Field.name := by
  obtain ⟨t, ht, rfl⟩ := Option.map_eq_some_iff.mp h
  obtain ⟨d, hd, hf⟩ := fielded?_eq_some ht
  exact hs _ hd t hf

theorem FieldsKeyed.name_eq (hs : s.FieldsKeyed) {typeName fieldName : String} {f : Field}
    (h : s.field? typeName fieldName = some f) : f.name = fieldName := by
  obtain ⟨fields, hfields, hf⟩ := Option.bind_eq_some_iff.mp h
  exact (hs.namedBy hfields).name_eq hf

theorem ArgumentsKeyed.namedBy (hs : s.ArgumentsKeyed) {typeName fieldName : String} {f : Field}
    (h : s.field? typeName fieldName = some f) : f.arguments.NamedBy InputValue.name := by
  obtain ⟨t, d, hd, hdt, hf⟩ := field?_eq_some h
  exact hs _ hd t hdt f hf

theorem NameKeyed.objects (hs : s.NameKeyed) : s.ObjectsKeyed := by
  intro e he t ht
  have hname := hs.types e he
  cases hd : e.2 <;> simp_all [TypeDefinition.fielded?, TypeDefinition.name]

end Schema

end HydrationPlan
