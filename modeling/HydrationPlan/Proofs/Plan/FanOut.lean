import HydrationPlan.Literal.Coercion
import HydrationPlan.Proofs.Hydration.Backing
import HydrationPlan.Proofs.Hydration.FanOut
import HydrationPlan.Proofs.Plan.Compilation

/-!
# Fan-out in a plan

An unbatched call of a plan fans out exactly where it has to, and over one argument only. A call
that would fan out over two, or into a field that is no list, is in no plan.
-/

namespace HydrationPlan

namespace Site

variable {s : Site} {a : Annotation} {h : Hydration}

theorem Grounds.backing_canonical (hs : s.engine.Canonical) (hg : s.Grounds a h) :
    ∀ b ∈ h.backing.field.arguments.values, b.type.Canonical := by
  obtain ⟨name, hfield⟩ := Backing.field?_of_resolve hg.backing
  exact (hs.of_field? hfield).2

end Site

namespace Gateway

variable {g : Gateway} {config : Config} {s : Site}

theorem canonical_of_mem_sites (hg : g.engine.Canonical) (hs : s ∈ g.sites config) :
    s.engine.Canonical ∧ s.field.type.Canonical := by
  obtain ⟨rfl, -, -, fields, hfields, hf⟩ := mem_sites_iff.mp hs
  exact ⟨hg, (hg.of_fieldsOf? hfields hf).1⟩

/-- If all types are canonical, the unbatched instructions of a plan fan out as needed. A call that
would fan out amiss is refused, and no other is refused for its fan-out. -/
theorem compile_fans_out (hg : g.engine.Canonical) (config : Config) (rules : LiteralRules) :
    (∀ c, g.compile config rules = .ok c → ∀ e ∈ c.plan.fields.entries,
      ∃ s ∈ g.sites config, s.coordinates = e.1 ∧
        List.Forall₂ (fun a i => ∃ h, s.Grounds a h ∧ i.target = h.target ∧
          (i.isBatch = false → s.FansAsNeeded i)) s.field.annotations e.2) ∧
      ∀ s ∈ g.sites config, ∀ a h, s.Grounds a h → h.isBatch = false →
        (h.FansAmiss → ∀ i, h.instruction rules ≠ .ok i) ∧
          ∀ args, h.resolveArguments rules = .ok args → ¬ h.FansAmiss →
            ∃ t, h.strategy args = .ok t := by
  constructor
  · intro c hc e he
    obtain ⟨s, hs, hcoordinates, hall⟩ := yields_of_compile hc he
    obtain ⟨hengine, htype⟩ := canonical_of_mem_sites hg hs
    refine ⟨s, hs, hcoordinates, hall.imp ?_⟩
    rintro a i ⟨h, hground, hyields⟩
    refine ⟨h, hground, hyields.target, fun hunbatched => ?_⟩
    have harguments := hground.backing_canonical hengine
    rw [hyields.isBatch_eq] at hunbatched
    cases hground.site
    exact hyields.fansAsNeeded hunbatched hengine htype harguments
  · intro s hs a h hground hunbatched
    obtain ⟨hengine, htype⟩ := canonical_of_mem_sites hg hs
    have harguments := hground.backing_canonical hengine
    cases hground.site
    constructor
    · intro hamiss i hi
      have hyields := Hydration.instruction_eq_ok_iff.mp hi
      exact hyields.not_fansAmiss hunbatched hengine htype harguments hamiss
    · intro args hargs
      exact (Hydration.strategy_isOk_iff hargs hengine harguments hunbatched htype).mpr

/-- Teams with a captain and many members. Profiles are fetched one at a time. -/
def teams : Gateway :=
  let profile : Field :=
    Field.ofType "profile" (.nullable (.named "Profile"))
      |>.withArgument ⟨"id", none, .named "ID", none⟩
      |>.withArgument ⟨"rival", none, .nullable (.named "ID"), none⟩
  let profileOf (supplies : List (String × String)) : Hydrated :=
    supplies.foldl (fun h s => h.withArgument s.1 (.string s.2)) (.ofBacking "profiles" "profile")
  let query := FieldedType.ofName "Query" |>.withField profile
  let type := FieldedType.ofName "Profile" |>.withField (.ofType "id" (.named "ID"))
  let member := FieldedType.ofName "Member" |>.withField (.ofType "id" (.named "ID"))
  let profiles : TypeRef := .nullable (.list (.nullable (.named "Profile")))
  let team := FieldedType.ofName "Team"
    |>.withField (.ofType "captain" (.named "Member"))
    |>.withField (.ofType "members" (.list (.named "Member")))
    |>.withField (Field.ofType "profiles" profiles |>.withHydrated
      (profileOf [("id", "$source.members.id"), ("rival", "$source.captain.id")]))
    |>.withField (Field.ofType "pairings" profiles |>.withHydrated
      (profileOf [("id", "$source.members.id"), ("rival", "$source.members.id")]))
    |>.withField (Field.ofType "profile" (.nullable (.named "Profile")) |>.withHydrated
      (profileOf [("id", "$source.members.id")]))
  ofEngine (.build [.object query, .object type, .object member, .object team])
    |>.withService ⟨"profiles", .build [.object query, .object type]⟩

/-- One profile is fetched for each member. Pairings would fan out over two arguments, and the
single profile over its only one. -/
theorem teams_fanned_out :
    teams.engine.Canonical ∧ ∃ c, teams.compile .standard Literal.rules = .ok c ∧
      c.plan.fields.entries.map (fun e => (e.1, e.2.map (·.strategy))) =
        [(⟨"Team", "profiles"⟩, [.single (.manyToOne "id")])] ∧
      (∀ e ∈ c.plan.fields.entries, ∃ s ∈ teams.sites .standard, s.coordinates = e.1 ∧
        List.Forall₂ (fun a i => ∃ h, s.Grounds a h ∧ i.target = h.target ∧
          (i.isBatch = false → s.FansAsNeeded i)) s.field.annotations e.2) ∧
      (teams.sites .standard).map (·.field.name) = ["profiles", "pairings", "profile"] ∧
      ∀ s ∈ teams.sites .standard, ∃ a h, s.Grounds a h ∧ h.isBatch = false ∧
        (s.field.name ≠ "profiles" →
          h.FansAmiss ∧ ∀ i, h.instruction Literal.rules ≠ .ok i) ∧
        (s.field.name = "profiles" → ¬ h.FansAmiss ∧
          ∃ args t, h.resolveArguments Literal.rules = .ok args ∧ h.strategy args = .ok t) := by
  have hcanonical : teams.engine.Canonical := by decide +kernel
  have hplan : (teams.compile .standard Literal.rules).toOption.map (fun c =>
      c.plan.fields.entries.map fun e => (e.1, e.2.map (·.strategy))) =
      some [(⟨"Team", "profiles"⟩, [.single (.manyToOne "id")])] := by decide +kernel
  have hamiss : ∀ s ∈ teams.sites .standard, ∃ hs ∈ s.hydrations.toOption, ∃ h ∈ hs,
      h.isBatch = false ∧ (h.FansAmiss ↔ s.field.name ≠ "profiles") ∧
        (h.resolveArguments Literal.rules).toOption.isSome = true := by decide +kernel
  obtain ⟨hfans, hrefused⟩ := compile_fans_out hcanonical .standard Literal.rules
  obtain ⟨c, hc, hentries⟩ := Option.map_eq_some_iff.mp hplan
  rw [toOption_eq_some_iff] at hc
  refine ⟨hcanonical, c, hc, hentries, hfans c hc, by decide +kernel, fun s hs => ?_⟩
  obtain ⟨hs', hhydrations, h, hh, hunbatched, hiff, hresolved⟩ := hamiss s hs
  rw [Option.mem_def, toOption_eq_some_iff, Site.hydrations_eq_ok_iff] at hhydrations
  obtain ⟨a, -, hground⟩ := exists_of_mem_right hhydrations.1 hh
  obtain ⟨args, hargs⟩ := Option.isSome_iff_exists.mp hresolved
  rw [toOption_eq_some_iff] at hargs
  obtain ⟨hnever, hchosen⟩ := hrefused s hs a h hground hunbatched
  refine ⟨a, h, hground, hunbatched, fun hname => ⟨hiff.mpr hname, hnever (hiff.mpr hname)⟩, ?_⟩
  intro hname
  have hfit : ¬ h.FansAmiss := fun hfansAmiss => hiff.mp hfansAmiss hname
  obtain ⟨t, ht⟩ := hchosen args hargs hfit
  exact ⟨hfit, args, t, hargs, ht⟩

end Gateway

end HydrationPlan
