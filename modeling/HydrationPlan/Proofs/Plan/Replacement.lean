import HydrationPlan.Proofs.Literal.Coercion
import HydrationPlan.Proofs.Plan.Outcome

/-!
# A field with other annotations

One field of a gateway is annotated anew. The types keep their places, so that every other part of
the gateway answers as before.
-/

namespace HydrationPlan

def TypeDefinition.mapFielded (f : FieldedType → FieldedType) : TypeDefinition → TypeDefinition
  | object t => object (f t)
  | interface t => interface (f t)
  | d => d

namespace Schema

def replaceField (s : Schema) (typeName key : String) (f : Field) : Schema :=
  match s.type? typeName with
  | none => s
  | some d =>
    { s with
      types := s.types.insert typeName
        (d.mapFielded fun t => { t with fields := t.fields.insert key f }) }

/-- The schemas have the same types in the same places, up to how their fields are hydrated. -/
structure Aligned (s t : Schema) : Prop where
  queryType : s.queryType = t.queryType
  types : s.types.Aligned TypeDefinition.Alike t.types

namespace Aligned

variable {s t : Schema} (h : s.Aligned t)
include h

theorem alike : s.Alike t :=
  ⟨by rw [queryRoot, queryRoot, h.queryType], h.types.get?⟩

theorem implementors_eq (interface : String) :
    s.implementors interface = t.implementors interface := by
  refine filterMap_eq_filterMap h.types.values fun d e hde => ?_
  cases hde with
  | object h => simp only [h.implements, h.name]
  | interface _ => rfl
  | other _ => rfl

theorem possibleTypes_eq (name : String) : s.possibleTypes name = t.possibleTypes name := by
  have hname := h.alike.type? name
  unfold possibleTypes
  generalize s.type? name = x at hname ⊢
  generalize t.type? name = y at hname ⊢
  cases hname with
  | none => rfl
  | @some d _ hde =>
    cases hde with
    | object _ => rfl
    | interface _ => exact h.implementors_eq name
    | other hd =>
      cases d with
      | interface u => cases hd
      | _ => rfl

theorem objectsKeyed (hs : s.ObjectsKeyed) : t.ObjectsKeyed := by
  intro e he u hu
  obtain ⟨e', he', hkey, hde⟩ := exists_of_mem_right h.types he
  have hfielded := hde.related.fielded?
  rw [Option.mem_def] at hu
  rw [hu] at hfielded
  generalize hx : e'.2.fielded? = x at hfielded
  cases hfielded with
  | some htu => rw [← htu.name, ← hkey, hs e' he' _ hx]

end Aligned

end Schema

section Replaced

variable {s : Schema} {typeName key : String} {f f' : Field} (hf : s.field? typeName key = some f)
include hf

theorem Schema.exists_type_of_field? : ∃ d t, s.type? typeName = some d ∧ d.fielded? = some t ∧
    t.fields.get? key = some f := by
  obtain ⟨fields, hfields, hget⟩ := Option.bind_eq_some_iff.mp hf
  obtain ⟨t, ht, rfl⟩ := Option.map_eq_some_iff.mp hfields
  obtain ⟨d, hd, hdt⟩ := Option.bind_eq_some_iff.mp ht
  exact ⟨d, t, hd, hdt, hget⟩

omit hf in
theorem Schema.queryType_replaceField :
    (s.replaceField typeName key f').queryType = s.queryType := by
  unfold replaceField
  split <;> rfl

theorem Schema.types_replaceField {R : Field → Field → Prop} (hR : ∀ f, R f f) (h : R f f') :
    s.types.Aligned (TypeDefinition.Related R) (s.replaceField typeName key f').types := by
  obtain ⟨d, t, hd, ht, hget⟩ := exists_type_of_field? hf
  have hrelated : t.Related R { t with fields := t.fields.insert key f' } :=
    ⟨rfl, .insert hR hget h, rfl, rfl⟩
  have hdefinition : d.Related R
      (d.mapFielded fun t => { t with fields := t.fields.insert key f' }) := by
    cases d <;> cases ht
    · exact .object hrelated
    · exact .interface hrelated
  unfold replaceField
  rw [hd]
  exact .insert (.refl hR) hd hdefinition

theorem Schema.related_replaceField {R : Field → Field → Prop} (hR : ∀ f, R f f) (h : R f f') :
    s.Related R (s.replaceField typeName key f') :=
  ⟨by rw [queryRoot, queryRoot, queryType_replaceField], (types_replaceField hf hR h).get?⟩

theorem Schema.aligned_replaceField (h : f.Alike f') :
    s.Aligned (s.replaceField typeName key f') :=
  ⟨queryType_replaceField.symm,
    (types_replaceField hf Field.Alike.refl h).imp fun _ _ he => ⟨he.1, .of_related he.2⟩⟩

theorem Schema.type?_replaceField (name : String) :
    (s.replaceField typeName key f').type? name = if typeName = name then
      (s.type? name).map (·.mapFielded fun t => { t with fields := t.fields.insert key f' })
    else s.type? name := by
  obtain ⟨d, t, hd, ht, hget⟩ := exists_type_of_field? hf
  unfold replaceField
  rw [hd]
  refine (Table.get?_insert ..).trans ?_
  split
  · rename_i hname
    rw [← hname, hd]
    rfl
  · rfl

omit hf in
theorem TypeDefinition.fielded?_mapFielded (d : TypeDefinition) (h : FieldedType → FieldedType) :
    (d.mapFielded h).fielded? = d.fielded?.map h := by
  cases d <;> rfl

/-- The fields of a type are those it had, but for the one that was replaced. -/
theorem Schema.fieldsOf?_replaceField (name : String) :
    (s.replaceField typeName key f').fieldsOf? name = if typeName = name then
      (s.fieldsOf? name).map (·.insert key f')
    else s.fieldsOf? name := by
  unfold fieldsOf? fielded?
  rw [type?_replaceField hf]
  split
  · cases s.type? name with
    | none => rfl
    | some d =>
      simp only [Option.map_some, Option.bind_eq_bind, Option.bind_some,
        TypeDefinition.fielded?_mapFielded, Option.map_map]
      rfl
  · rfl

theorem Schema.rel_fieldsOf?_replaceField (name : String) :
    Option.Rel (Table.Aligned fun a b => a = b ∨ name = typeName ∧ a = f ∧ b = f')
      (s.fieldsOf? name) ((s.replaceField typeName key f').fieldsOf? name) := by
  rw [fieldsOf?_replaceField hf]
  split
  · rename_i hname
    subst hname
    obtain ⟨fields, hfields, hget⟩ := Option.bind_eq_some_iff.mp hf
    rw [hfields]
    exact .some (.insert (fun _ => .inl rfl) hget (.inr ⟨rfl, rfl, rfl⟩))
  · cases s.fieldsOf? name with
    | none => exact .none
    | some fields => exact .some (.refl (fun _ => .inl rfl) fields)

theorem Schema.field?_replaceField_of_ne {name k : String} (h : (name, k) ≠ (typeName, key)) :
    (s.replaceField typeName key f').field? name k = s.field? name k := by
  unfold field?
  rw [fieldsOf?_replaceField hf]
  split
  · rename_i hname
    subst hname
    have hk : key ≠ k := fun hk => h (by rw [hk])
    cases s.fieldsOf? typeName with
    | none => rfl
    | some fields => exact (Table.get?_insert ..).trans (if_neg hk)
  · rfl

end Replaced

namespace Gateway

variable {g k : Gateway} {rules : LiteralRules}

theorem alike_of_aligned (he : g.engine.Aligned k.engine) (hs : g.services = k.services)
    (hrules : rules g.engine = rules k.engine) : g.Alike Eq rules k := by
  have hvirtual : ∀ name, g.isVirtual name = k.isVirtual name := by
    intro name
    rw [isVirtual, isVirtual, he.alike.related.isSome_type?_eq, hs]
  have hadmits : ∀ declared actual, g.admits declared actual = k.admits declared actual := by
    intro declared actual
    rw [admits, admits, hvirtual, he.alike.related.isObject_eq, he.alike.related.isAbstract_eq,
      he.possibleTypes_eq]
  exact {
    engine := he.alike
    literals := hrules
    service? := fun name => by rw [service?, service?, hs]
    isVirtual := hvirtual
    checkOutput := fun declared backing => by
      rw [Corresponds.eq_iff, checkOutput, checkOutput, he.possibleTypes_eq, funext (hadmits _)] }

def replaceField (g : Gateway) (typeName key : String) (f : Field) : Gateway :=
  { g with engine := g.engine.replaceField typeName key f }

section Replaced

variable {typeName key : String} {f f' : Field}
variable (hf : g.engine.field? typeName key = some f) (h : f.Alike f')
variable (hrules : rules g.engine = rules (g.replaceField typeName key f').engine)
include hf h hrules

theorem alike_replaceField : g.Alike Eq rules (g.replaceField typeName key f') :=
  alike_of_aligned (Schema.aligned_replaceField hf h) rfl hrules

/-- Wherever a field is declared, it compiles as before. -/
theorem compile_replaceField (config : Config) (name : String) (a : Field) :
    Site.compile rules ⟨g.replaceField typeName key f', config, name, a⟩ =
      Site.compile rules ⟨g, config, name, a⟩ := by
  have halike : Site.Alike Eq rules ⟨g, config, name, a⟩
      ⟨g.replaceField typeName key f', config, name, a⟩ :=
    ⟨alike_replaceField hf h hrules, rfl, rfl, .refl a⟩
  exact (halike.matches (fun _ => rfl) rfl).compile_eq.symm

/-- A hydrated field and its counterpart. -/
theorem sites_replaceField (config : Config) :
    List.Forall₂ (fun s t => s.Alike Eq rules t ∧ s.gateway = g ∧
        (s.field = t.field ∨ s.parentType = typeName ∧ s.field = f ∧ t.field = f'))
      (g.sites config) ((g.replaceField typeName key f').sites config) := by
  have haligned : g.engine.Aligned (g.replaceField typeName key f').engine :=
    Schema.aligned_replaceField hf h
  have halike : g.Alike Eq rules (g.replaceField typeName key f') :=
    alike_replaceField hf h hrules
  rw [sites_eq_flatMap, sites_eq_flatMap, ← haligned.types.keys_eq]
  refine List.rel_flatMap (List.forall₂_same.mpr fun _ _ => rfl) ?_
  rintro name _ rfl
  dsimp only
  have hfields : Option.Rel _ (g.engine.fieldsOf? name)
      ((g.replaceField typeName key f').engine.fieldsOf? name) :=
    Schema.rel_fieldsOf?_replaceField hf name
  generalize g.engine.fieldsOf? name = x at hfields ⊢
  generalize (g.replaceField typeName key f').engine.fieldsOf? name = y at hfields ⊢
  cases hfields with
  | none => exact .nil
  | some hab =>
    rw [Option.toList_some, Option.toList_some, List.flatMap_singleton, List.flatMap_singleton,
      List.forall₂_map_left_iff, List.forall₂_map_right_iff]
    have hfield : ∀ a b, a = b ∨ name = typeName ∧ a = f ∧ b = f' → a.Alike b := by
      rintro a b (rfl | ⟨-, rfl, rfl⟩)
      · exact .refl a
      · exact h
    refine (List.rel_filter (fun a b hr => ?_) hab.values).imp ?_
    · exact iff_of_eq (congrArg (· = true) (hfield a b hr).isHydrated)
    · intro a b hr
      exact ⟨⟨halike, rfl, rfl, hfield a b hr⟩, rfl, hr⟩

end Replaced

end Gateway

end HydrationPlan
