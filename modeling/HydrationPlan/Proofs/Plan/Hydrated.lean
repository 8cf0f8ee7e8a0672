import HydrationPlan.Proofs.InOrder
import HydrationPlan.Proofs.Plan.Compilation

/-!
# The hydrated fields of a gateway

A hydrated field is told by its place: which of the types of the engine declares it, and which of
the fields of that type it is. A compilation goes through these fields in the order of their places.
-/

namespace HydrationPlan

theorem TypeDefinition.fielded?_eq_some_iff {d : TypeDefinition} {t : FieldedType} :
    d.fielded? = some t ↔ d = .object t ∨ d = .interface t := by
  cases d <;> simp [fielded?]

theorem Field.isHydrated_iff_annotated {f : Field} :
    f.isHydrated = true ↔ f.hydrated ≠ [] ∨ f.idHydrated ≠ none := by
  simp [isHydrated, Option.isSome_iff_ne_none]

namespace Gateway

variable {g : Gateway} {config : Config}

/-- An object or interface of the engine declares a field with annotations. The place counts the
types, and the fields within the type. -/
inductive HydratedAt (g : Gateway) (config : Config) : Nat × Nat → Site → Prop
  | declared {i j : Nat} {typeName key : String} {d : TypeDefinition} {t : FieldedType} {f : Field}
      (hd : g.engine.types.entries[i]? = some (typeName, d))
      (ht : d = .object t ∨ d = .interface t)
      (hf : t.fields.entries[j]? = some (key, f))
      (hannotated : f.hydrated ≠ [] ∨ f.idHydrated ≠ none) :
      HydratedAt g config (i, j) ⟨g, config, typeName, f⟩

/-- The hydrated fields of the engine in the order of the schema. -/
def InSchemaOrder (g : Gateway) (config : Config) (sites : List Site) : Prop :=
  InOrder (Prod.Lex (· < ·) (· < ·)) (g.HydratedAt config) sites

theorem rightUnique_hydratedAt (g : Gateway) (config : Config) :
    Relator.RightUnique (g.HydratedAt config) := by
  rintro ⟨i, j⟩ s s' ⟨hd, ht, hf, -⟩ h
  obtain ⟨hd', ht', hf', -⟩ := h
  obtain ⟨rfl, rfl⟩ := Prod.mk.inj (Option.some.inj (hd.symm.trans hd'))
  have hfielded := (TypeDefinition.fielded?_eq_some_iff.mpr ht).symm.trans
    (TypeDefinition.fielded?_eq_some_iff.mpr ht')
  cases hfielded
  obtain ⟨-, rfl⟩ := Prod.mk.inj (Option.some.inj (hf.symm.trans hf'))
  rfl

def sitesOf (g : Gateway) (config : Config) (e : String × TypeDefinition) : List Site :=
  e.2.fielded?.toList.flatMap fun t => t.fields.entries.filterMap fun x =>
    if x.2.isHydrated then some ⟨g, config, e.1, x.2⟩ else none

theorem sites_eq_flatMap_sitesOf (g : Gateway) (config : Config) :
    g.sites config = g.engine.types.entries.flatMap (g.sitesOf config) := by
  rw [sites_eq_flatMap, Table.keys, List.flatMap_map]
  refine List.flatMap_congr fun e he => ?_
  have hfields : g.engine.fieldsOf? e.1 = e.2.fielded?.map (·.fields) := by
    rw [Schema.fieldsOf?, Schema.fielded?, Schema.type?, (Table.get?_eq_some_iff ..).mpr he]
    rfl
  rw [hfields, sitesOf]
  cases e.2.fielded? with
  | none => rfl
  | some t =>
    simp only [Option.map_some, Option.toList_some, List.flatMap_singleton, Table.values]
    rw [← List.filterMap_eq_map, ← List.filterMap_eq_filter, List.filterMap_filterMap,
      List.filterMap_map]
    refine List.filterMap_congr fun x _ => ?_
    cases hx : x.2.isHydrated <;> simp [Option.guard, hx]

theorem inOrder_sitesOf (g : Gateway) (config : Config) (e : String × TypeDefinition) :
    InOrder (· < ·) (fun (j : Nat) s => ∃ t key f, e.2.fielded? = some t ∧
      t.fields.entries[j]? = some (key, f) ∧ f.isHydrated = true ∧ s = ⟨g, config, e.1, f⟩)
      (g.sitesOf config e) := by
  rw [sitesOf]
  cases ht : e.2.fielded? with
  | none => exact .nil (by simp)
  | some t =>
    rw [Option.toList_some, List.flatMap_singleton]
    refine (InOrder.filterMap _ _).congr fun j s => ?_
    constructor
    · rintro ⟨⟨key, f⟩, hf, hs⟩
      obtain ⟨hhydrated, hs⟩ := Option.ite_none_right_eq_some.mp hs
      exact ⟨t, key, f, rfl, hf, hhydrated, (Option.some.inj hs).symm⟩
    · rintro ⟨_, key, f, hu, hf, hhydrated, rfl⟩
      cases hu
      exact ⟨(key, f), hf, by simp [hhydrated]⟩

/-- The compilation goes through the hydrated fields in schema order. -/
theorem inSchemaOrder_sites (g : Gateway) (config : Config) :
    g.InSchemaOrder config (g.sites config) := by
  rw [sites_eq_flatMap_sitesOf]
  refine (InOrder.flatMap fun e _ => g.inOrder_sitesOf config e).congr ?_
  rintro ⟨i, j⟩ s
  constructor
  · rintro ⟨⟨typeName, d⟩, hd, t, key, f, ht, hf, hhydrated, rfl⟩
    exact .declared hd (TypeDefinition.fielded?_eq_some_iff.mp ht) hf
      (Field.isHydrated_iff_annotated.mp hhydrated)
  · rintro ⟨hd, ht, hf, hannotated⟩
    exact ⟨_, hd, _, _, _, TypeDefinition.fielded?_eq_some_iff.mpr ht, hf,
      Field.isHydrated_iff_annotated.mpr hannotated, rfl⟩

theorem InSchemaOrder.eq_sites {sites : List Site} (h : g.InSchemaOrder config sites) :
    sites = g.sites config :=
  InOrder.unique (g.rightUnique_hydratedAt config) h (g.inSchemaOrder_sites config)

end Gateway

end HydrationPlan
