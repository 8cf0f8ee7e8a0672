import HydrationPlan.Literal.Coercion
import HydrationPlan.Proofs.Hydration.Output
import HydrationPlan.Proofs.Plan.Compilation

/-!
# Unions of a plan

A planned field with a union as its type returns members of the union, as long as a service defines
the union. A union that only the engine has counts as virtual, and then every object passes for a
member.
-/

namespace HydrationPlan

/-- The types that the backing field can return are members of the union that is declared. A union
that no service defines only asks for objects. -/
structure Hydration.ReturnsMembers (h : Hydration) (u : UnionType) : Prop where
  member : h.isVirtual = false → ∀ t ∈ h.engine.possibleTypes h.backing.field.type.namedType,
    t ∈ u.members ∨ t = h.site.field.type.namedType ∧ h.engine.isObject t = false
  object : h.isVirtual = true → ∀ t ∈ h.engine.possibleTypes h.backing.field.type.namedType,
    h.engine.isObject t = true

theorem Hydration.Yields.returnsMembers {rules : LiteralRules} {h : Hydration} {i : Instruction}
    (hy : h.Yields rules i) {u : UnionType}
    (hu : h.engine.type? h.site.field.type.namedType = some (.union u)) : h.ReturnsMembers u := by
  have hadmits := (Gateway.checkOutput_eq_ok_iff ..).mp hy.output
  constructor
  · intro hv t ht
    rcases (Gateway.admits_union_iff hu hv).mp (hadmits t ht) with hm | rfl
    · exact .inl hm
    · exact .inr ⟨rfl, Gateway.isObject_of_union hu⟩
  · intro hv t ht
    exact (Gateway.admits_of_isVirtual hv).symm.trans (hadmits t ht)

namespace Gateway

/-- Where a service defines the union, no instruction of a plan returns an object of another
type. -/
theorem compile_returns_members {g : Gateway} {config : Config} {rules : LiteralRules}
    {c : Compilation} (hc : g.compile config rules = .ok c) :
    ∀ e ∈ c.plan.fields.entries, ∃ s ∈ g.sites config, s.coordinates = e.1 ∧
      ∀ u, g.engine.type? s.field.type.namedType = some (.union u) →
        List.Forall₂ (fun a i => ∃ h, s.Grounds a h ∧ i.target = h.target ∧ h.ReturnsMembers u)
          s.field.annotations e.2 := by
  intro e he
  obtain ⟨s, hs, hcoordinates, hall⟩ := yields_of_compile hc he
  obtain ⟨rfl, -⟩ := mem_sites_iff.mp hs
  refine ⟨s, hs, hcoordinates, fun u hu => hall.imp ?_⟩
  rintro a i ⟨h, hground, hyields⟩
  refine ⟨h, hground, hyields.target, hyields.returnsMembers ?_⟩
  rwa [Hydration.engine, hground.site]

/-- Owners of a cat or a dog. Cats, dogs and birds have a service each; that of the dogs may define
more, and a pet is fetched from one of them. -/
def petOwners (dogs : List Schema.Step) (service field : String) : Gateway :=
  let animal (name : String) : Schema.Step :=
    .object (FieldedType.ofName name |>.withField (.ofType "id" (.named "ID")))
  let byId (name type : String) : Field := Field.ofType name (.nullable (.named type))
    |>.withArgument ⟨"id", none, .named "ID", none⟩
  let query := FieldedType.ofName "Query"
  let owner := FieldedType.ofName "Owner"
    |>.withField (.ofType "petId" (.named "ID"))
    |>.withField (Field.ofType "pet" (.nullable (.named "Pet"))
      |>.withHydrated (Hydrated.ofBacking service field
        |>.withArgument "id" (.string "$source.petId")))
  let engine : Schema := .build
    [.object (query
        |>.withField (byId "catById" "Cat")
        |>.withField (byId "dogById" "Dog")
        |>.withField (byId "birdById" "Bird")),
      animal "Cat", animal "Dog", animal "Bird", .union "Pet" ["Cat", "Dog"], .object owner]
  ofEngine engine
    |>.withService ⟨"cats", .build
      [.object (query |>.withField (byId "catById" "Cat")), animal "Cat"]⟩
    |>.withService ⟨"dogs", .build
      (.object (query |>.withField (byId "dogById" "Dog")) :: animal "Dog" :: dogs)⟩
    |>.withService ⟨"birds", .build
      [.object (query |>.withField (byId "birdById" "Bird")), animal "Bird"]⟩

/-- The service of the dogs knows of pets. -/
def sharedPets (service field : String) : Gateway :=
  petOwners [.union "Pet" ["Cat", "Dog"]] service field

/-- Only the engine knows of pets. -/
def mergedPets (service field : String) : Gateway := petOwners [] service field

/-- A dog is returned for a pet. -/
theorem sharedPets_returns_members :
    ∃ c, (sharedPets "dogs" "dogById").compile .standard Literal.rules = .ok c ∧
      c.plan.fields.keys = [⟨"Owner", "pet"⟩] ∧
      ∀ e ∈ c.plan.fields.entries, ∃ s ∈ (sharedPets "dogs" "dogById").sites .standard,
        s.coordinates = e.1 ∧ ∀ u,
          (sharedPets "dogs" "dogById").engine.type? s.field.type.namedType = some (.union u) →
            List.Forall₂
              (fun a i => ∃ h, s.Grounds a h ∧ i.target = h.target ∧ h.ReturnsMembers u)
              s.field.annotations e.2 := by
  have hplan : ((sharedPets "dogs" "dogById").compile .standard Literal.rules).map
      (fun c => c.plan.fields.keys) = .ok [⟨"Owner", "pet"⟩] := by cbv
  obtain ⟨c, hc, hkeys⟩ := map_eq_ok_iff.mp hplan
  exact ⟨c, hc, hkeys, compile_returns_members hc⟩

/-- A bird is planned for a pet that only the engine knows of, and is refused once a service knows
of pets too. Services define the members of the union in both cases. -/
theorem mergedPets_returns_stranger :
    ((mergedPets "birds" "birdById").compile .standard Literal.rules).map (fun c =>
        c.plan.fields.entries.map fun e => (e.1, e.2.map (·.target.coordinates))) =
      .ok [(⟨"Owner", "pet"⟩, [⟨"Query", "birdById"⟩])] ∧
    ((mergedPets "birds" "birdById").engine.field? "Owner" "pet").map (fun f =>
      (mergedPets "birds" "birdById").engine.possibleTypes f.type.namedType) =
        some ["Cat", "Dog"] ∧
    (∀ t ∈ ["Cat", "Dog"], (mergedPets "birds" "birdById").isVirtual t = false) ∧
    ((mergedPets "birds" "birdById").engine.field? "Query" "birdById").map (fun f =>
      (mergedPets "birds" "birdById").engine.possibleTypes f.type.namedType) = some ["Bird"] ∧
    (mergedPets "birds" "birdById").engine.isObject "Bird" = true ∧
    (sharedPets "birds" "birdById").checkOutput (.nullable (.named "Pet"))
      (.nullable (.named "Bird")) = .error (.incompatibleOutputType "Bird" "Pet") := by
  refine ⟨by cbv, by cbv, by decide +kernel, by cbv, by cbv, by cbv⟩

end Gateway

end HydrationPlan
