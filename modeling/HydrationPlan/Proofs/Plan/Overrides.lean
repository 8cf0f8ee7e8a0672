import HydrationPlan.Proofs.Hydration.Overrides
import HydrationPlan.Proofs.Plan.Independence

/-!
# A gateway under more enum overrides

Whatever compiles goes on to compile alike when overrides are added. A field that had another
outcome before was rejected for a clash of types.
-/

namespace HydrationPlan

namespace Site

variable {rules : LiteralRules} {s : Site} {d : Config}

theorem compile_configured_of_ok (hd : s.config.Extends d) {f : CompiledField}
    (hf : s.compile rules = .ok f) : (s.configured d).compile rules = .ok f := by
  obtain ⟨f', hf', rfl⟩ := (eased_compile hd).exists_ok hf
  exact hf'

theorem clash_of_compile_ne (hd : s.config.Extends d)
    (hne : (s.configured d).compile rules ≠ s.compile rules) :
    ∃ cause : Rejection, cause.IsClash ∧ s.compile rules = .error (.rejected cause) := by
  obtain ⟨stop, hstop, hcompile⟩ := (eased_compile hd).exists_of_ne hne
  cases hstop with
  | rejected hcause => exact ⟨_, hcause, hcompile⟩

end Site

namespace Gateway

variable {g : Gateway} {rules : LiteralRules} {c d : Config} {C D : Compilation}

theorem sites_configured (g : Gateway) (c d : Config) :
    g.sites d = (g.sites c).map (·.configured d) := by
  have hsite : ∀ typeName, Site.mk g d typeName = fun f => (Site.mk g c typeName f).configured d :=
    fun _ => rfl
  simp only [sites_eq_flatMap, List.map_flatMap, List.map_map, hsite]
  rfl

theorem sitesAt_configured (g : Gateway) (c d : Config) (x : Coordinates) :
    g.sitesAt d x = (g.sitesAt c x).map (·.configured d) := by
  rw [sitesAt, sitesAt, sites_configured g c d, List.filter_map]
  rfl

section Extended

variable (h : c.Extends d)
include h

/-- A field that has another outcome under more overrides was rejected for a clash. -/
theorem sameAt_or_clash (hC : g.compile c rules = .ok C) (hD : g.compile d rules = .ok D)
    (x : Coordinates) :
    Compilation.SameAt x C D ∨ ∃ cause ∈ C.causesAt x, cause.IsClash := by
  by_cases hsame : ∀ s ∈ g.sitesAt c x, (s.configured d).compile rules = s.compile rules
  · left
    refine sameAt_of_matches ?_ hC hD
    rw [sitesAt_configured g c d, List.forall₂_map_right_iff, List.forall₂_same]
    intro s hs
    refine ⟨rfl, ?_⟩
    rw [hsame s hs]
    exact .refl (.refl fun _ => rfl) (fun _ => rfl) _
  · right
    push Not at hsame
    obtain ⟨s, hs, hne⟩ := hsame
    have hconfig : s.config = c := (mem_sites_iff.mp (List.mem_filter.mp hs).1).2.1
    obtain ⟨cause, hcause, hcompile⟩ := Site.clash_of_compile_ne (hconfig.symm ▸ h) hne
    refine ⟨cause, ?_, hcause⟩
    rw [causesAt_of_compile hC, List.mem_map]
    refine ⟨⟨s.coordinates, cause⟩, List.mem_filterMap.mpr ⟨s, hs, ?_⟩, rfl⟩
    rw [Site.rejection?, hcompile]

/-- The compilation under more overrides ends as well, unless a field that had been rejected for a
clash now lacks an input field. -/
theorem isOk_or_gap (hC : g.compile c rules = .ok C) :
    (∃ D, g.compile d rules = .ok D) ∨
      ∃ s ∈ g.sites c, (∃ cause : Rejection, cause.IsClash ∧
        s.compile rules = .error (.rejected cause)) ∧
        ∃ gap, (s.configured d).compile rules = .error (.gap gap) := by
  by_cases hgapless : ∀ s ∈ g.sites c, Gapless ((s.configured d).compile rules)
  · left
    refine Compilation.foldlM_addSite_isOk_iff.mpr ?_
    rw [sites_configured g c d, List.forall_mem_map]
    exact hgapless
  · right
    simp only [Gapless] at hgapless
    push Not at hgapless
    obtain ⟨s, hs, gap, hgap⟩ := hgapless
    have hconfig : s.config = c := (mem_sites_iff.mp hs).2.1
    refine ⟨s, hs, Site.clash_of_compile_ne (hconfig.symm ▸ h) ?_, gap, hgap⟩
    intro hsame
    exact gapless_of_compile hC s hs gap (hsame ▸ hgap)

/-- A field that lacks an input field under the fewer overrides still does under more. -/
theorem isOk_of_extended (hD : g.compile d rules = .ok D) : ∃ C, g.compile c rules = .ok C := by
  refine Compilation.foldlM_addSite_isOk_iff.mpr fun s hs gap hgap => ?_
  have hconfig : s.config = c := (mem_sites_iff.mp hs).2.1
  have hconfigured : s.configured d ∈ g.sites d :=
    sites_configured g c d ▸ List.mem_map_of_mem hs
  by_cases hsame : (s.configured d).compile rules = s.compile rules
  · exact gapless_of_compile hD _ hconfigured gap (hsame.trans hgap)
  · obtain ⟨cause, -, hcompile⟩ := Site.clash_of_compile_ne (hconfig.symm ▸ h) hsame
    cases hgap.symm.trans hcompile

/-- A field that is planned under the fewer overrides stays in the plan as it is. -/
theorem sameAt_of_planned (hf : g.engine.FieldsKeyed) (hC : g.compile c rules = .ok C)
    (hD : g.compile d rules = .ok D) {x : Coordinates} (hx : x ∈ C.plan.fields.keys) :
    Compilation.SameAt x C D := by
  refine (sameAt_or_clash h hC hD x).resolve_right ?_
  rintro ⟨cause, hcause, -⟩
  have hrejected : x ∈ C.rejections.map (·.coordinates) := by
    obtain ⟨r, hr, -⟩ := List.mem_map.mp hcause
    obtain ⟨hr, hrx⟩ := List.mem_filter.mp hr
    exact List.mem_map.mpr ⟨r, hr, of_decide_eq_true hrx⟩
  have haccounts := accounts_of_compile hf hC
  obtain ⟨s, hs, rfl⟩ := List.mem_map.mp (haccounts.planned.subset hx)
  rcases haccounts.either s hs with ⟨-, hnot⟩ | ⟨-, hnot⟩
  · exact hnot hrejected
  · exact hnot hx

end Extended

/-- More enum overrides only ever add. A field that compiles goes on to compile to the same
instructions and warnings, and a field whose outcome changes was rejected for a clash of types. The
whole compilation is kept too, unless a field that was rejected so now has no shape for its input,
which takes an object that is not stored under its name. No override matters in the other
direction. -/
theorem compile_overridden (g : Gateway) (rules : LiteralRules) :
    (∀ c d : Config, c.Extends d →
      g.sites d = (g.sites c).map (·.configured d) ∧
      (∀ s ∈ g.sites c,
        (∀ f, s.compile rules = .ok f → (s.configured d).compile rules = .ok f) ∧
        ((s.configured d).compile rules ≠ s.compile rules →
          ∃ cause : Rejection, cause.IsClash ∧ s.compile rules = .error (.rejected cause))) ∧
      (∀ C D, g.compile c rules = .ok C → g.compile d rules = .ok D →
        (∀ x, Compilation.SameAt x C D ∨ ∃ cause ∈ C.causesAt x, cause.IsClash) ∧
        (g.engine.FieldsKeyed → ∀ x ∈ C.plan.fields.keys, Compilation.SameAt x C D)) ∧
      (∀ C, g.compile c rules = .ok C → (∃ D, g.compile d rules = .ok D) ∨
        ∃ s ∈ g.sites c, (∃ cause : Rejection, cause.IsClash ∧
          s.compile rules = .error (.rejected cause)) ∧
          ∃ gap, (s.configured d).compile rules = .error (.gap gap)) ∧
      (∀ D, g.compile d rules = .ok D → ∃ C, g.compile c rules = .ok C) ∧
      (g.engine.ObjectsKeyed → (∃ C, g.compile c rules = .ok C) ∧
        ∃ D, g.compile d rules = .ok D)) ∧
    ∀ (c d : Config) (a b : String), c.DifferAt d a b →
      (∀ isBatch kind supplied required, supplied.namedType = b → required.namedType = a →
        g.engine.checkAssignable c isBatch kind supplied required =
          g.engine.checkAssignable d isBatch kind supplied required) ∧
      ∀ (p : InputPair) (f : InputValue) (o : Field),
        g.engine.field? p.object f.name = some o → o.type.namedType = b →
        f.type.namedType = a → g.engine.inputFieldStep c p f = g.engine.inputFieldStep d p f := by
  constructor
  · intro c d h
    refine ⟨sites_configured g c d, fun s hs => ?_, fun C D hC hD => ?_, ?_, ?_, ?_⟩
    · have hs : s.config.Extends d := (mem_sites_iff.mp hs).2.1 ▸ h
      exact ⟨fun f hf => Site.compile_configured_of_ok hs hf, Site.clash_of_compile_ne hs⟩
    · exact ⟨sameAt_or_clash h hC hD, fun hf x hx => sameAt_of_planned h hf hC hD hx⟩
    · exact fun C hC => isOk_or_gap h hC
    · exact fun D hD => isOk_of_extended h hD
    · exact fun ho => ⟨compile_isOk ho c rules, compile_isOk ho d rules⟩
  · intro c d a b h
    constructor
    · intro isBatch kind supplied required hsupplied hrequired
      exact Schema.checkAssignable_of_differAt h hsupplied hrequired
    · intro p f o ho hsupplied hrequired
      exact Schema.inputFieldStep_of_differAt h ho hsupplied hrequired

/-- Houses with a mascot, and with a pet that is found by the tenant and its legal form. The type of
tenants is given. -/
def letHouses (tenant : FieldedType) : Gateway :=
  let pet := FieldedType.ofName "Pet" |>.withField (.ofType "id" (.named "ID"))
  let owner := FieldedType.ofName "Owner" |>.withField (.ofType "id" (.named "ID"))
  let ownerInput := InputType.ofName "OwnerInput" |>.withField ⟨"id", none, .named "ID", none⟩
  let query := FieldedType.ofName "Query"
    |>.withField (Field.ofType "petOf" (.named "Pet")
      |>.withArgument ⟨"form", none, .named "LegalForm", none⟩
      |>.withArgument ⟨"owner", none, .named "OwnerInput", none⟩)
    |>.withField (Field.ofType "petById" (.named "Pet")
      |>.withArgument ⟨"id", none, .named "ID", none⟩)
  let house := FieldedType.ofName "House"
    |>.withField (.ofType "form" (.named "OwnerForm"))
    |>.withField (.ofType "tenant" (.named "Tenant"))
    |>.withField (.ofType "mascotId" (.named "ID"))
    |>.withField (Field.ofType "pet" (.nullable (.named "Pet"))
      |>.withHydrated (Hydrated.ofBacking "pets" "petOf"
        |>.withArgument "form" (.string "$source.form")
        |>.withArgument "owner" (.string "$source.tenant")))
    |>.withField (Field.ofType "mascot" (.nullable (.named "Pet"))
      |>.withHydrated (Hydrated.ofBacking "pets" "petById"
        |>.withArgument "id" (.string "$source.mascotId")))
  let engine := Schema.build
    [.object query, .object pet, .object house, .object owner, .inputObject ownerInput,
      .enum "OwnerForm" ["PERSON", "FIRM"], .enum "LegalForm" ["COMPANY"]]
  ofEngine { engine with types := engine.types.insert "Tenant" (.object tenant) }
    |>.withService ⟨"pets", .build [.object query, .object pet, .inputObject ownerInput]⟩

def formsOverridden : Config := Config.standard.withEnumOverride "OwnerForm" "LegalForm"

def houseTenant : FieldedType :=
  FieldedType.ofName "Tenant" |>.withField (.ofType "id" (.named "ID"))

/-- The override lets the pet be found; the mascot is planned as before. The other direction is
refused as before. -/
theorem letHouses_overridden :
    Config.standard.Extends formsOverridden ∧
      Config.standard.DifferAt formsOverridden "OwnerForm" "LegalForm" ∧
      (∃ C D, (letHouses houseTenant).compile .standard Literal.rules = .ok C ∧
        (letHouses houseTenant).compile formsOverridden Literal.rules = .ok D ∧
        C.plan.fields.keys = [⟨"House", "mascot"⟩] ∧
        C.causesAt ⟨"House", "pet"⟩ =
          [.incompatibleInputType "form" "OwnerForm!" "LegalForm!"] ∧
        Compilation.SameAt ⟨"House", "mascot"⟩ C D ∧
        D.plan.fields.keys = [⟨"House", "pet"⟩, ⟨"House", "mascot"⟩]) ∧
      (letHouses houseTenant).engine.checkAssignable formsOverridden false .sourceField
        (.named "LegalForm") (.named "OwnerForm") =
          .error (.incompatibleInputType "LegalForm!" "OwnerForm!") := by
  have hextends : Config.standard.Extends formsOverridden := Config.Extends.withEnumOverride ..
  have hdiffer : Config.standard.DifferAt formsOverridden "OwnerForm" "LegalForm" :=
    Config.DifferAt.withEnumOverride _ _ _
  have hf : (letHouses houseTenant).engine.FieldsKeyed := by decide +kernel
  have ho : (letHouses houseTenant).engine.ObjectsKeyed := by decide +kernel
  obtain ⟨hadds, hdirected⟩ := compile_overridden (letHouses houseTenant) Literal.rules
  obtain ⟨-, -, hkept, -, -, hends⟩ := hadds _ _ hextends
  obtain ⟨⟨C, hC⟩, D, hD⟩ := hends ho
  have hbefore : ((letHouses houseTenant).compile .standard Literal.rules).map
      (fun c => (c.plan.fields.keys, c.causesAt ⟨"House", "pet"⟩)) =
      .ok ([⟨"House", "mascot"⟩],
        [.incompatibleInputType "form" "OwnerForm!" "LegalForm!"]) := by decide +kernel
  have hafter : ((letHouses houseTenant).compile formsOverridden Literal.rules).map
      (·.plan.fields.keys) = .ok [⟨"House", "pet"⟩, ⟨"House", "mascot"⟩] := by cbv
  rw [hC] at hbefore
  rw [hD] at hafter
  obtain ⟨hplanned, hcauses⟩ := Prod.mk.inj (Except.ok.inj hbefore)
  refine ⟨hextends, hdiffer, ⟨C, D, hC, hD, hplanned, hcauses, ?_, Except.ok.inj hafter⟩, ?_⟩
  · refine (hkept C D hC hD).2 hf _ ?_
    exact hplanned ▸ List.mem_singleton_self _
  · rw [← (hdirected _ _ _ _ hdiffer).1 false .sourceField (.named "LegalForm")
      (.named "OwnerForm") rfl rfl]
    cbv

/-- Where tenants are stored as owners, the override lets the pet pass the checks and then ends the
compilation. With it goes the plan of the mascot. -/
theorem letHouses_not_overridden :
    Config.standard.Extends formsOverridden ∧
      (letHouses (.ofName "Owner")).compile formsOverridden Literal.rules =
        .error ⟨"Tenant", "OwnerInput", "id"⟩ ∧
      ∃ C, (letHouses (.ofName "Owner")).compile .standard Literal.rules = .ok C ∧
        C.plan.fields.keys = [⟨"House", "mascot"⟩] ∧
        ¬ ∃ D, (letHouses (.ofName "Owner")).compile formsOverridden Literal.rules = .ok D ∧
          Compilation.SameAt ⟨"House", "mascot"⟩ C D := by
  have hends : (letHouses (.ofName "Owner")).compile formsOverridden Literal.rules =
      .error ⟨"Tenant", "OwnerInput", "id"⟩ := by cbv
  have hbefore : ((letHouses (.ofName "Owner")).compile .standard Literal.rules).map
      (·.plan.fields.keys) = .ok [⟨"House", "mascot"⟩] := by decide +kernel
  obtain ⟨C, hC, hkeys⟩ := map_eq_ok_iff.mp hbefore
  refine ⟨Config.Extends.withEnumOverride .., hends, C, hC, hkeys, ?_⟩
  rintro ⟨D, hD, -⟩
  cases hends.symm.trans hD

end Gateway

end HydrationPlan
