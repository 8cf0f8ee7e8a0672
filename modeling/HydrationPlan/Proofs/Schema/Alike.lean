import HydrationPlan.Proofs.Schema.Related
import HydrationPlan.Proofs.VirtualTypes

/-!
# Schemas that answer alike

Two schemas are alike if they find the same types under all names, up to the annotations of fields
that are hydrated in both. Their tables may list the types in different orders.
-/

namespace HydrationPlan

/-- The fields differ at most in how they are hydrated. -/
structure Field.Alike (f g : Field) : Prop where
  name : f.name = g.name
  type : f.type = g.type
  arguments : f.arguments = g.arguments
  isHydrated : f.isHydrated = g.isHydrated

theorem Field.Alike.refl (f : Field) : f.Alike f := ⟨rfl, rfl, rfl, rfl⟩

theorem Field.Alike.similar {f g : Field} (h : f.Alike g) : f.Similar g := ⟨h.name, h.type⟩

structure FieldedType.Alike (t u : FieldedType) : Prop where
  name : t.name = u.name
  fields : t.fields.Aligned Field.Alike u.fields
  implements : t.implements = u.implements
  defaultHydration : t.defaultHydration = u.defaultHydration

inductive TypeDefinition.Alike : TypeDefinition → TypeDefinition → Prop
  | object {t u : FieldedType} (h : t.Alike u) : Alike (.object t) (.object u)
  | interface {t u : FieldedType} (h : t.Alike u) : Alike (.interface t) (.interface u)
  | other {d : TypeDefinition} (h : d.fielded? = none) : Alike d d

namespace TypeDefinition.Alike

variable {d e : TypeDefinition}

theorem related (h : d.Alike e) : d.Related Field.Alike e := by
  cases h with
  | object h => exact .object ⟨h.name, h.fields, h.implements, h.defaultHydration⟩
  | interface h => exact .interface ⟨h.name, h.fields, h.implements, h.defaultHydration⟩
  | other h => exact .other h

theorem of_related (h : d.Related Field.Alike e) : d.Alike e := by
  cases h with
  | object h => exact .object ⟨h.name, h.fields, h.implements, h.defaultHydration⟩
  | interface h => exact .interface ⟨h.name, h.fields, h.implements, h.defaultHydration⟩
  | other h => exact .other h

theorem refl (d : TypeDefinition) : d.Alike d := of_related (.refl Field.Alike.refl d)

end TypeDefinition.Alike

structure Schema.Alike (s t : Schema) : Prop where
  queryRoot : s.queryRoot = t.queryRoot
  type? : ∀ name, Option.Rel TypeDefinition.Alike (s.type? name) (t.type? name)

/-- A field and its counterpart, as they are reached. -/
structure Reached.Alike (r q : Reached) : Prop where
  field : r.field.Alike q.field
  yieldsList : r.yieldsList = q.yieldsList

namespace Schema.Alike

variable {s t : Schema} (h : s.Alike t)
include h

theorem related : s.Related Field.Alike t :=
  ⟨h.queryRoot, fun name => rel_imp (h.type? name) fun _ _ hd => hd.related⟩

theorem fieldsOf? (name : String) :
    Option.Rel (Table.Aligned Field.Alike) (s.fieldsOf? name) (t.fieldsOf? name) :=
  h.related.fieldsOf? name

theorem follow? (typeName : String) (path : List String) :
    Option.Rel Reached.Alike (s.follow? typeName path) (t.follow? typeName path) :=
  rel_imp (h.related.follow? (fun _ _ => Field.Alike.similar) typeName path) fun _ _ hr =>
    ⟨hr.field, hr.yieldsList⟩

theorem checkAssignable_eq (c : Config) (isBatch : Bool) (kind : SupplyKind)
    (supplied required : TypeRef) :
    s.checkAssignable c isBatch kind supplied required =
      t.checkAssignable c isBatch kind supplied required :=
  h.related.checkAssignable_eq (fun _ _ => Field.Alike.similar) c isBatch kind supplied required

/-! ## Virtual types -/

theorem nestedPair?_eq {backing backing' : Table String Field} {f f' : Field}
    (hb : backing.Aligned Field.Alike backing') (hf : f.Alike f') :
    s.nestedPair? backing f = t.nestedPair? backing' f' := by
  have hcounterpart := hb.get? f.name
  unfold nestedPair?
  rw [← hf.isHydrated, ← hf.name, ← hf.type]
  generalize backing.get? f.name = x at hcounterpart ⊢
  generalize backing'.get? f.name = y at hcounterpart ⊢
  cases hcounterpart with
  | none => rfl
  | some hg => simp only [hg.type, h.related.isFielded_eq]

theorem nestedPairs_eq (p : String × String) : s.nestedPairs p = t.nestedPairs p := by
  have hfields := h.fieldsOf? p.1
  have hbacking := h.fieldsOf? p.2
  unfold nestedPairs
  generalize s.fieldsOf? p.1 = x at hfields ⊢
  generalize t.fieldsOf? p.1 = x' at hfields ⊢
  generalize s.fieldsOf? p.2 = y at hbacking ⊢
  generalize t.fieldsOf? p.2 = y' at hbacking ⊢
  cases hfields with
  | none => rfl
  | some hf =>
    cases hbacking with
    | none => rfl
    | some hb => exact filterMap_eq_filterMap hf.values fun f g hfg => h.nestedPair?_eq hb hfg

theorem mem_fieldedNames_iff (name : String) : name ∈ s.fieldedNames ↔ name ∈ t.fieldedNames := by
  rw [mem_fieldedNames, mem_fieldedNames, h.related.isFielded_eq]

theorem mem_pairKeys_iff (start p : String × String) :
    p ∈ s.pairKeys start ↔ p ∈ t.pairKeys start := by
  simp only [pairKeys, List.mem_cons, List.mem_flatMap, List.mem_map, h.mem_fieldedNames_iff]

theorem virtualTypes_eq (virtualType backingType : String) :
    s.virtualTypes virtualType backingType = t.virtualTypes virtualType backingType := by
  simp only [virtualTypes, pairWalk, h.nestedPairs_eq]
  rw [Walk.run_congr (h.mem_pairKeys_iff _)]

end Schema.Alike

end HydrationPlan
