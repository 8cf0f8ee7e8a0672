import HydrationPlan.Hydration.Argument
import HydrationPlan.Proofs.Correspondence
import HydrationPlan.Proofs.NameKeyed
import HydrationPlan.Proofs.Walk

/-!
# Schemas with related fields

Two schemas find the same types under all names, up to fields that are related. Whatever is asked of
fields by their names and types alone has the same answer in both, in whatever order their tables
list the types.
-/

namespace HydrationPlan

/-- The fields have the same name and the same type. -/
structure Field.Similar (f g : Field) : Prop where
  name : f.name = g.name
  type : f.type = g.type

theorem Field.Similar.refl (f : Field) : f.Similar f := ⟨rfl, rfl⟩

structure FieldedType.Related (R : Field → Field → Prop) (t u : FieldedType) : Prop where
  name : t.name = u.name
  fields : t.fields.Aligned R u.fields
  implements : t.implements = u.implements
  defaultHydration : t.defaultHydration = u.defaultHydration

inductive TypeDefinition.Related (R : Field → Field → Prop) : TypeDefinition → TypeDefinition → Prop
  | object {t u : FieldedType} (h : t.Related R u) : Related R (.object t) (.object u)
  | interface {t u : FieldedType} (h : t.Related R u) : Related R (.interface t) (.interface u)
  | other {d : TypeDefinition} (h : d.fielded? = none) : Related R d d

namespace TypeDefinition.Related

variable {R : Field → Field → Prop} {d e : TypeDefinition}

theorem refl (hR : ∀ f, R f f) (d : TypeDefinition) : d.Related R d := by
  cases d with
  | object t => exact .object ⟨rfl, .refl hR t.fields, rfl, rfl⟩
  | interface t => exact .interface ⟨rfl, .refl hR t.fields, rfl, rfl⟩
  | _ => exact .other rfl

theorem fielded? (h : d.Related R e) :
    Option.Rel (FieldedType.Related R) d.fielded? e.fielded? := by
  cases h with
  | object h => exact .some h
  | interface h => exact .some h
  | other h =>
    rw [h]
    exact .none

theorem input?_eq (h : d.Related R e) : d.input? = e.input? := by
  cases h <;> rfl

end TypeDefinition.Related

theorem Schema.mem_filterMap_types_iff {γ : Type} {s : Schema} {f : TypeDefinition → Option γ}
    {x : γ} : x ∈ s.types.values.filterMap f ↔ ∃ name, (s.type? name).bind f = some x := by
  rw [List.mem_filterMap]
  constructor
  · rintro ⟨d, hd, hx⟩
    obtain ⟨⟨name, d⟩, hmem, rfl⟩ := List.mem_map.mp hd
    exact ⟨name, Option.bind_eq_some_iff.mpr ⟨d, (s.types.get?_eq_some_iff name d).mpr hmem, hx⟩⟩
  · rintro ⟨name, hx⟩
    obtain ⟨d, hd, hx⟩ := Option.bind_eq_some_iff.mp hx
    exact ⟨d, Table.mem_values_of_mem ((s.types.get?_eq_some_iff name d).mp hd), hx⟩

structure Schema.Related (R : Field → Field → Prop) (s t : Schema) : Prop where
  queryRoot : s.queryRoot = t.queryRoot
  type? : ∀ name, Option.Rel (TypeDefinition.Related R) (s.type? name) (t.type? name)

theorem Schema.sharedFields_eq (objectType inputType : String) {R : Field → Field → Prop}
    {fields fields' : Table String Field} (hf : fields.Aligned R fields')
    (inputs : List InputValue) :
    sharedFields objectType inputType fields inputs =
      sharedFields objectType inputType fields' inputs := by
  induction inputs with
  | nil => rfl
  | cons f rest ih =>
    have hcontains : fields.contains f.name = fields'.contains f.name := by
      rw [Table.contains, Table.contains, hf.keys_eq]
    rw [sharedFields, sharedFields, hcontains, ih]

/-- A field and its counterpart, as they are reached. -/
structure Reached.Related (R : Field → Field → Prop) (r q : Reached) : Prop where
  field : R r.field q.field
  yieldsList : r.yieldsList = q.yieldsList

namespace Schema.Related

variable {R : Field → Field → Prop} {s t : Schema} (h : s.Related R t)
include h

theorem fielded? (name : String) :
    Option.Rel (FieldedType.Related R) (s.fielded? name) (t.fielded? name) :=
  rel_bind (h.type? name) fun _ _ hd => hd.fielded?

theorem fieldsOf? (name : String) :
    Option.Rel (Table.Aligned R) (s.fieldsOf? name) (t.fieldsOf? name) :=
  rel_map (h.fielded? name) fun _ _ ht => ht.fields

theorem field? (typeName fieldName : String) :
    Option.Rel R (s.field? typeName fieldName) (t.field? typeName fieldName) :=
  rel_bind (h.fieldsOf? typeName) fun _ _ hf => hf.get? fieldName

theorem isFielded_eq (name : String) : s.isFielded name = t.isFielded name :=
  isSome_eq_of_rel (h.fielded? name)

theorem defaultHydration?_eq (name : String) :
    s.defaultHydration? name = t.defaultHydration? name :=
  bind_eq_of_rel (h.fielded? name) fun _ _ ht => ht.defaultHydration

/-- Under a name both schemas have no type, or types that are alike. -/
theorem type?_cases (name : String) :
    (s.type? name = none ∧ t.type? name = none) ∨
      ∃ d e, s.type? name = some d ∧ t.type? name = some e ∧ d.Related R e := by
  have hname := h.type? name
  generalize s.type? name = x at hname ⊢
  generalize t.type? name = y at hname ⊢
  cases hname with
  | none => exact .inl ⟨rfl, rfl⟩
  | some hde => exact .inr ⟨_, _, rfl, rfl, hde⟩

theorem type?_eq_some {name : String} {d : TypeDefinition} (hd : s.type? name = some d)
    (hf : d.fielded? = none) : t.type? name = some d := by
  rcases h.type?_cases name with ⟨hs, -⟩ | ⟨d', e, hs, ht, hde⟩
  · cases hd.symm.trans hs
  · cases hd.symm.trans hs
    cases hde with
    | object _ => cases hf
    | interface _ => cases hf
    | other _ => exact ht

theorem inputType?_eq (name : String) : s.inputType? name = t.inputType? name := by
  rcases h.type?_cases name with ⟨hs, ht⟩ | ⟨d, e, hs, ht, hde⟩
  · rw [inputType?, inputType?, hs, ht]
  · rw [inputType?, inputType?, hs, ht]
    cases hde <;> rfl

theorem enumType?_eq (name : String) : s.enumType? name = t.enumType? name := by
  rcases h.type?_cases name with ⟨hs, ht⟩ | ⟨d, e, hs, ht, hde⟩
  · rw [enumType?, enumType?, hs, ht]
  · rw [enumType?, enumType?, hs, ht]
    cases hde <;> rfl

theorem isScalar_eq (name : String) : s.isScalar name = t.isScalar name := by
  rcases h.type?_cases name with ⟨hs, ht⟩ | ⟨d, e, hs, ht, hde⟩
  · rw [isScalar, isScalar, hs, ht]
  · rw [isScalar, isScalar, hs, ht]
    cases hde <;> rfl

theorem isObject_eq (name : String) : s.isObject name = t.isObject name := by
  rcases h.type?_cases name with ⟨hs, ht⟩ | ⟨d, e, hs, ht, hde⟩
  · rw [isObject, isObject, hs, ht]
  · rw [isObject, isObject, hs, ht]
    cases hde <;> rfl

theorem isUnion_eq (name : String) : s.isUnion name = t.isUnion name := by
  rcases h.type?_cases name with ⟨hs, ht⟩ | ⟨d, e, hs, ht, hde⟩
  · rw [isUnion, isUnion, hs, ht]
  · rw [isUnion, isUnion, hs, ht]
    cases hde <;> rfl

theorem isAbstract_eq (name : String) : s.isAbstract name = t.isAbstract name := by
  rcases h.type?_cases name with ⟨hs, ht⟩ | ⟨d, e, hs, ht, hde⟩
  · rw [isAbstract, isAbstract, hs, ht]
  · rw [isAbstract, isAbstract, hs, ht]
    cases hde <;> rfl

theorem isSome_type?_eq (name : String) : (s.type? name).isSome = (t.type? name).isSome :=
  isSome_eq_of_rel (h.type? name)

/-- What is collected from all types is the same, up to its order. -/
theorem mem_filterMap_iff {γ : Type} {f : TypeDefinition → Option γ}
    (hf : ∀ d e : TypeDefinition, d.Related R e → f d = f e) (x : γ) :
    x ∈ s.types.values.filterMap f ↔ x ∈ t.types.values.filterMap f := by
  rw [mem_filterMap_types_iff, mem_filterMap_types_iff]
  refine exists_congr fun name => ?_
  rw [bind_eq_of_rel (h.type? name) hf]

theorem mem_implementors_iff (interface name : String) :
    name ∈ s.implementors interface ↔ name ∈ t.implementors interface := by
  refine h.mem_filterMap_iff (fun d e hde => ?_) name
  cases hde with
  | object h => simp only [h.implements, h.name]
  | interface _ => rfl
  | other _ => rfl

theorem mem_possibleTypes_iff (declared name : String) :
    name ∈ s.possibleTypes declared ↔ name ∈ t.possibleTypes declared := by
  have hname := h.type? declared
  unfold possibleTypes
  generalize s.type? declared = x at hname ⊢
  generalize t.type? declared = y at hname ⊢
  cases hname with
  | none => exact Iff.rfl
  | @some d _ hde =>
    cases hde with
    | object _ => exact Iff.rfl
    | interface _ => exact h.mem_implementors_iff declared name
    | other hd =>
      cases d with
      | object u => cases hd
      | interface u => cases hd
      | _ => exact Iff.rfl

theorem meeting_eq (c : Config) (supplied required : String) :
    s.meeting c supplied required = t.meeting c supplied required := by
  have hobject := h.fielded? supplied
  simp only [meeting, h.enumType?_eq, h.inputType?_eq, h.isScalar_eq]
  generalize s.fielded? supplied = x at hobject ⊢
  generalize t.fielded? supplied = y at hobject ⊢
  cases hobject with
  | none => rfl
  | some htu => cases t.inputType? required <;> simp only [htu.name]

theorem mem_inputKeys_iff (k : String × String) : k ∈ s.inputKeys ↔ k ∈ t.inputKeys := by
  have hkeys : ∀ u : Schema, k ∈ u.inputKeys ↔
      k.1 ∈ u.types.values.filterMap (fun d => d.fielded?.map (·.name)) ∧
        k.2 ∈ u.types.values.filterMap (fun d => d.input?.map (·.name)) := by
    intro u
    have hinputs : u.inputKeys =
        (u.types.values.filterMap fun d => d.fielded?.map (·.name)).flatMap fun o =>
          (u.types.values.filterMap fun d => d.input?.map (·.name)).map fun i => (o, i) := by
      refine congrArg₂ List.flatMap (funext fun o => congrArg (List.map _) ?_) rfl
      exact List.filterMap_congr fun d _ => by cases d <;> rfl
    rw [hinputs, List.mem_flatMap]
    constructor
    · rintro ⟨object, hobject, hk⟩
      obtain ⟨input, hinput, rfl⟩ := List.mem_map.mp hk
      exact ⟨hobject, hinput⟩
    · rintro ⟨hobject, hinput⟩
      exact ⟨k.1, hobject, List.mem_map.mpr ⟨k.2, hinput, rfl⟩⟩
  rw [hkeys, hkeys]
  refine and_congr (h.mem_filterMap_iff ?_ _) (h.mem_filterMap_iff ?_ _)
  · intro d e hde
    cases hde with
    | object h => simp only [TypeDefinition.fielded?, Option.map_some, h.name]
    | interface h => simp only [TypeDefinition.fielded?, Option.map_some, h.name]
    | other _ => rfl
  · exact fun d e hde => by rw [hde.input?_eq]

theorem inputShape_eq (source backing : TypeRef) :
    s.inputShape source backing = t.inputShape source backing := by
  have hfields := h.fieldsOf? source.namedType
  unfold inputShape
  rw [h.inputType?_eq]
  generalize s.fieldsOf? source.namedType = x at hfields ⊢
  generalize t.fieldsOf? source.namedType = y at hfields ⊢
  cases hfields with
  | none => rfl
  | some hf => cases t.inputType? backing.namedType <;> simp only [sharedFields_eq _ _ hf]

section Similar

variable (hR : ∀ f g, R f g → f.Similar g)
include hR

theorem follow? (typeName : String) (path : List String) :
    Option.Rel (Reached.Related R) (s.follow? typeName path) (t.follow? typeName path) := by
  induction path generalizing typeName with
  | nil => exact .none
  | cons name rest ih =>
    cases rest with
    | nil =>
      refine rel_map (h.field? typeName name) fun f g hfg => ⟨hfg, ?_⟩
      rw [(hR f g hfg).type]
    | cons next rest =>
      refine rel_bind (h.field? typeName name) fun f g hfg => ?_
      rw [← (hR f g hfg).type]
      refine rel_bind (ih f.type.namedType) fun r q hrq => .some ⟨hrq.field, ?_⟩
      rw [hrq.yieldsList]

theorem locate? (typeName : String) (path : List String) :
    Option.Rel (fun p q => p.1 = q.1 ∧ R p.2 q.2) (s.locate? typeName path)
      (t.locate? typeName path) := by
  induction path generalizing typeName with
  | nil => exact .none
  | cons name rest ih =>
    cases rest with
    | nil => exact rel_map (h.field? typeName name) fun f g hfg => ⟨rfl, hfg⟩
    | cons next rest =>
      refine rel_bind (h.field? typeName name) fun f g hfg => ?_
      rw [← (hR f g hfg).type, ← h.isFielded_eq]
      split
      · exact ih f.type.namedType
      · exact .none

theorem inputFieldStep_eq (c : Config) (p : InputPair) (f : InputValue) :
    s.inputFieldStep c p f = t.inputFieldStep c p f := by
  have hfield := h.field? p.object f.name
  unfold inputFieldStep
  generalize s.field? p.object f.name = x at hfield ⊢
  generalize t.field? p.object f.name = y at hfield ⊢
  cases hfield with
  | none => rfl
  | some hfg => simp only [(hR _ _ hfg).name, (hR _ _ hfg).type, h.meeting_eq]

theorem inputSteps_eq (c : Config) (p : InputPair) : s.inputSteps c p = t.inputSteps c p := by
  unfold inputSteps
  rw [funext (h.inputFieldStep_eq hR c p)]

theorem inputWalk_eq (c : Config) (p : InputPair) : s.inputWalk c p = t.inputWalk c p := by
  rw [inputWalk, inputWalk, funext (h.inputSteps_eq hR c), Walk.run_congr h.mem_inputKeys_iff]

theorem checkAssignable_eq (c : Config) (isBatch : Bool) (kind : SupplyKind)
    (supplied required : TypeRef) :
    s.checkAssignable c isBatch kind supplied required =
      t.checkAssignable c isBatch kind supplied required := by
  simp only [checkAssignable, h.meeting_eq, h.inputWalk_eq hR]

end Similar

end Schema.Related

end HydrationPlan
