import HydrationPlan.Proofs.Plan.Replacement

/-!
# Fields are compiled independently

The annotations of a field matter to that field alone: whatever they are, every other field has the
same outcome. A host that rules on literals by the annotations of a schema can tell them apart.
-/

namespace HydrationPlan

/-- The compilations tell the same of the field. -/
structure Compilation.SameAt (x : Coordinates) (c d : Compilation) : Prop where
  instructions : c.plan.get? x = d.plan.get? x
  causes : c.causesAt x = d.causesAt x
  diagnostics : c.diagnosticsAt x = d.diagnosticsAt x

namespace Gateway

/-- Where the fields with the coordinates have the same outcomes, so have the compilations. -/
theorem sameAt_of_matches {g k : Gateway} {config config' : Config} {rules : LiteralRules}
    {c d : Compilation} {x : Coordinates}
    (hmatch : List.Forall₂ (Site.Matches Eq rules) (g.sitesAt config x) (k.sitesAt config' x))
    (hc : g.compile config rules = .ok c) (hd : k.compile config' rules = .ok d) :
    Compilation.SameAt x c d := by
  have hagrees := agreesAt_of_compile hmatch hc hd
  refine ⟨hagrees.instructions, ?_, diagnosticsAt_eq_of_compile hmatch hc hd⟩
  have hcauses := hagrees.causes
  rwa [List.forall₂_eq_eq_eq] at hcauses

variable {g : Gateway} {typeName key : String} {f f' : Field} {rules : LiteralRules}

section Replaced

variable (hg : g.engine.FieldsKeyed) (hf : g.engine.field? typeName key = some f)
variable (h : f.Alike f') (config : Config)
variable (hrules : rules g.engine = rules (g.replaceField typeName key f').engine)
include hg hf h hrules

theorem matches_sitesAt {x : Coordinates} (hx : x ≠ ⟨typeName, key⟩) :
    List.Forall₂ (Site.Matches Eq rules) (g.sitesAt config x)
      ((g.replaceField typeName key f').sitesAt config x) := by
  have hname : f.name = key := hg.name_eq hf
  have hsites := List.rel_filter (p := (·.coordinates = x)) (q := (·.coordinates = x))
    (fun s t hst => by simp only [hst.1.coordinates_eq]) (sites_replaceField hf h hrules config)
  refine forall₂_imp_of_mem ?_ hsites
  rintro s hs t ⟨hst, -, hfield | ⟨rfl, rfl, -⟩⟩
  · exact hst.matches (fun _ => rfl) hfield
  · have hcoordinates : s.coordinates = x := of_decide_eq_true (List.mem_filter.mp hs).2
    refine absurd (hcoordinates.symm.trans ?_) hx
    rw [Site.coordinates, hname]

theorem sameAt_of_compile {c d : Compilation} (hc : g.compile config rules = .ok c)
    (hd : (g.replaceField typeName key f').compile config rules = .ok d) {x : Coordinates}
    (hx : x ≠ ⟨typeName, key⟩) : Compilation.SameAt x c d :=
  sameAt_of_matches (matches_sitesAt hg hf h config hrules hx) hc hd

end Replaced

/-- However a hydrated field is annotated anew, every other field is declared and compiled as
before, if literals are ruled alike. Compilations that come to their ends tell the same of it. -/
theorem compile_independent (hg : g.engine.FieldsKeyed)
    (hf : g.engine.field? typeName key = some f) (h : f.Alike f') (config : Config) :
    (∀ rules : LiteralRules, rules g.engine = rules (g.replaceField typeName key f').engine →
      (∀ name k a, (name, k) ≠ (typeName, key) → g.engine.field? name k = some a →
        (g.replaceField typeName key f').engine.field? name k = some a ∧
          Site.compile rules ⟨g.replaceField typeName key f', config, name, a⟩ =
            Site.compile rules ⟨g, config, name, a⟩) ∧
      (∀ c d, g.compile config rules = .ok c →
        (g.replaceField typeName key f').compile config rules = .ok d →
          ∀ x ≠ ⟨typeName, key⟩, Compilation.SameAt x c d) ∧
      (g.engine.ObjectsKeyed →
        (∃ c, g.compile config rules = .ok c) ∧
          ∃ d, (g.replaceField typeName key f').compile config rules = .ok d)) ∧
    Literal.rules g.engine = Literal.rules (g.replaceField typeName key f').engine := by
  have haligned : g.engine.Aligned (g.replaceField typeName key f').engine :=
    Schema.aligned_replaceField hf h
  refine ⟨fun rules hrules => ⟨?_, ?_, ?_⟩, Literal.rules_eq_of_alike haligned.alike⟩
  · intro name k a hne ha
    exact ⟨(Schema.field?_replaceField_of_ne hf hne).trans ha,
      compile_replaceField hf h hrules config name a⟩
  · exact fun c d hc hd x hx => sameAt_of_compile hg hf h config hrules hc hd hx
  · exact fun ho => ⟨compile_isOk ho config rules,
      compile_isOk (haligned.objectsKeyed ho) config rules⟩

def hydratedPet (h : Hydrated) : Field :=
  Field.ofType "pet" (.nullable (.named "Pet")) |>.withHydrated h

def byMascot : Hydrated :=
  Hydrated.ofBacking "pets" "petById" |>.withArgument "id" (.string "$source.mascotId")

def fromToys : Hydrated := Hydrated.ofBacking "toys" "petById"

def mascotHouses : Gateway :=
  (houses "Tenant" (.nullable (.named "Pet"))).replaceField "House" "pet" (hydratedPet byMascot)

/-- The pet is rejected once an unknown service is asked for it; the mascot stays in the plan. -/
theorem mascotHouses_independent :
    ∃ c d, mascotHouses.compile .standard Literal.rules = .ok c ∧
      (mascotHouses.replaceField "House" "pet" (hydratedPet fromToys)).compile .standard
        Literal.rules = .ok d ∧
      Compilation.SameAt ⟨"House", "mascot"⟩ c d ∧
      c.plan.fields.keys = [⟨"House", "pet"⟩, ⟨"House", "mascot"⟩] ∧
      d.causesAt ⟨"House", "pet"⟩ = [.serviceNotFound "toys"] := by
  have hfield : mascotHouses.engine.field? "House" "pet" = some (hydratedPet byMascot) := by cbv
  have hg : mascotHouses.engine.FieldsKeyed := by decide +kernel
  have ho : mascotHouses.engine.ObjectsKeyed := by decide +kernel
  have halike : (hydratedPet byMascot).Alike (hydratedPet fromToys) := ⟨rfl, rfl, rfl, rfl⟩
  obtain ⟨hindependent, hrules⟩ := compile_independent hg hfield halike .standard
  obtain ⟨-, hsame, hends⟩ := hindependent Literal.rules hrules
  obtain ⟨⟨c, hc⟩, d, hd⟩ := hends ho
  have hbefore : (mascotHouses.compile .standard Literal.rules).map (·.plan.fields.keys) =
      .ok [⟨"House", "pet"⟩, ⟨"House", "mascot"⟩] := by decide +kernel
  have hafter : ((mascotHouses.replaceField "House" "pet" (hydratedPet fromToys)).compile
      .standard Literal.rules).map (·.causesAt ⟨"House", "pet"⟩) =
        .ok [.serviceNotFound "toys"] := by decide +kernel
  rw [hc] at hbefore
  rw [hd] at hafter
  exact ⟨c, d, hc, hd, hsame c d hc hd _ (by decide), Except.ok.inj hbefore, Except.ok.inj hafter⟩

def rexHouses : Gateway :=
  mascotHouses.replaceField "House" "mascot"
    (Field.ofType "mascot" (.nullable (.named "Pet"))
      |>.withHydrated (Hydrated.ofBacking "pets" "petById" |>.withArgument "id" (.string "rex")))

/-- A host that refuses strings where a service of toys is asked for the pet of a house. -/
def toysRefused : LiteralRules := Literal.rulesRefusing fun s =>
  (s.field? "House" "pet").any fun f => f.hydrated.any (·.service = "toys")

/-- Such a host rules on the mascot by what it reads from the annotations of the pet. -/
theorem rexHouses_not_independent :
    rexHouses.engine.FieldsKeyed ∧ rexHouses.engine.ObjectsKeyed ∧
      rexHouses.engine.field? "House" "pet" = some (hydratedPet byMascot) ∧
      (hydratedPet byMascot).Alike (hydratedPet fromToys) ∧
      ∃ c d, rexHouses.compile .standard toysRefused = .ok c ∧
        (rexHouses.replaceField "House" "pet" (hydratedPet fromToys)).compile .standard
          toysRefused = .ok d ∧
        c.plan.fields.keys = [⟨"House", "pet"⟩, ⟨"House", "mascot"⟩] ∧ d.plan.fields.keys = [] ∧
        ¬ Compilation.SameAt ⟨"House", "mascot"⟩ c d := by
  have hbefore : (rexHouses.compile .standard toysRefused).map (·.plan.fields.keys) =
      .ok [⟨"House", "pet"⟩, ⟨"House", "mascot"⟩] := by cbv
  have hafter : ((rexHouses.replaceField "House" "pet" (hydratedPet fromToys)).compile
      .standard toysRefused).map (·.plan.fields.keys) = .ok [] := by decide +kernel
  obtain ⟨c, hc, hckeys⟩ := map_eq_ok_iff.mp hbefore
  obtain ⟨d, hd, hdkeys⟩ := map_eq_ok_iff.mp hafter
  refine ⟨by decide +kernel, by decide +kernel, by cbv, ⟨rfl, rfl, rfl, rfl⟩, c, d, hc, hd, hckeys,
    hdkeys, fun hsame => ?_⟩
  have hplanned := Compilation.mem_keys_iff_of_get?_eq hsame.instructions
  rw [hckeys, hdkeys] at hplanned
  exact List.not_mem_nil (hplanned.mp (by decide))

end Gateway

end HydrationPlan
