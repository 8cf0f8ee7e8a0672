import HydrationPlan.Proofs.Hydration.Site

/-!
# A compilation as the sum of its fields

Every field adds its outcome to the plan, to the rejections or to the report, and reads nothing
that was added before. What is said of a compilation follows from what is said of each field.
-/

namespace HydrationPlan

namespace Site

variable {rules : LiteralRules} {s : Site}

/-- The entry of an accepted field in the plan. -/
def planned? (rules : LiteralRules) (s : Site) : Option (Coordinates × List Instruction) :=
  match s.compile rules with
  | .ok f => some (s.coordinates, f.instructions)
  | .error _ => none

def rejection? (rules : LiteralRules) (s : Site) : Option FieldRejection :=
  match s.compile rules with
  | .error (.rejected cause) => some ⟨s.coordinates, cause⟩
  | _ => none

/-- The warnings of an accepted field, the error of a rejected one. -/
def diagnostics (rules : LiteralRules) (s : Site) : List Diagnostic :=
  match s.compile rules with
  | .ok f => f.warnings
  | .error (.rejected cause) => [FieldRejection.diagnostic ⟨s.coordinates, cause⟩]
  | .error (.gap _) => []

end Site

namespace Compilation

variable {rules : LiteralRules} {c d : Compilation} {s : Site} {sites : List Site}

theorem addSite_eq_ok (h : c.addSite rules s = .ok d) :
    d.plan.fields =
        (s.planned? rules).toList.foldl (fun t e => t.insert e.1 e.2) c.plan.fields ∧
      d.rejections = c.rejections ++ (s.rejection? rules).toList ∧
      d.report.diagnostics = c.report.diagnostics ++ s.diagnostics rules := by
  unfold addSite at h
  split at h <;> cases h <;> rename_i hs <;>
    simp [Site.planned?, Site.rejection?, Site.diagnostics, hs, accept, reject, Plan.insert,
      Report.addAll, Report.add]

theorem foldlM_addSite_eq_ok (h : sites.foldlM (addSite rules) c = .ok d) :
    d.plan.fields =
        (sites.filterMap (Site.planned? rules)).foldl (fun t e => t.insert e.1 e.2)
          c.plan.fields ∧
      d.rejections = c.rejections ++ sites.filterMap (Site.rejection? rules) ∧
      d.report.diagnostics = c.report.diagnostics ++ sites.flatMap (Site.diagnostics rules) := by
  induction sites generalizing c with
  | nil =>
    rw [List.foldlM_nil, pure_eq_ok_iff] at h
    simp [h]
  | cons s sites ih =>
    rw [List.foldlM_cons, bind_eq_ok_iff] at h
    obtain ⟨m, hm, hd⟩ := h
    obtain ⟨hplan, hrejections, hreport⟩ := addSite_eq_ok hm
    obtain ⟨hplan', hrejections', hreport'⟩ := ih hd
    rw [hplan', hplan, hrejections', hrejections, hreport', hreport]
    cases hp : s.planned? rules <;> cases hr : s.rejection? rules <;>
      simp [hp, hr]

theorem addSite_isOk_iff : (∃ d, c.addSite rules s = .ok d) ↔ Gapless (s.compile rules) := by
  unfold addSite
  constructor
  · rintro ⟨d, hd⟩ gap hgap
    rw [hgap] at hd
    cases hd
  · intro h
    split
    · exact ⟨_, rfl⟩
    · exact ⟨_, rfl⟩
    · rename_i gap hgap
      exact absurd hgap (h gap)

/-- A compilation comes to its end exactly if every field is accepted or rejected. -/
theorem foldlM_addSite_isOk_iff :
    (∃ d, sites.foldlM (addSite rules) c = .ok d) ↔ ∀ s ∈ sites, Gapless (s.compile rules) := by
  induction sites generalizing c with
  | nil => exact ⟨fun _ => nofun, fun _ => ⟨c, rfl⟩⟩
  | cons s sites ih =>
    rw [List.forall_mem_cons]
    simp only [List.foldlM_cons, bind_eq_ok_iff]
    constructor
    · rintro ⟨d, m, hm, hd⟩
      exact ⟨addSite_isOk_iff.mp ⟨m, hm⟩, ih.mp ⟨d, hd⟩⟩
    · rintro ⟨hs, hsites⟩
      obtain ⟨m, hm⟩ := addSite_isOk_iff.mpr hs
      obtain ⟨d, hd⟩ := ih.mpr hsites
      exact ⟨d, m, hm, hd⟩

end Compilation

namespace Gateway

variable {g : Gateway} {config : Config} {rules : LiteralRules} {c : Compilation} {s : Site}

theorem sites_eq_flatMap (g : Gateway) (config : Config) :
    g.sites config = g.engine.types.keys.flatMap fun typeName =>
      (g.engine.fieldsOf? typeName).toList.flatMap fun fields =>
        (fields.values.filter Field.isHydrated).map (Site.mk g config typeName) := by
  unfold sites
  congr 1
  funext typeName
  cases g.engine.fieldsOf? typeName <;> simp

theorem mem_sites_iff :
    s ∈ g.sites config ↔ s.gateway = g ∧ s.config = config ∧ s.field.isHydrated = true ∧
      ∃ fields, g.engine.fieldsOf? s.parentType = some fields ∧ s.field ∈ fields.values := by
  simp only [sites_eq_flatMap, List.mem_flatMap, Option.mem_toList, List.mem_map, List.mem_filter]
  constructor
  · rintro ⟨typeName, -, fields, hf, field, ⟨hfield, hhydrated⟩, rfl⟩
    exact ⟨rfl, rfl, hhydrated, fields, hf, hfield⟩
  · rintro ⟨rfl, rfl, hhydrated, fields, hf, hfield⟩
    refine ⟨s.parentType, ?_, fields, hf, s.field, ⟨hfield, hhydrated⟩, rfl⟩
    obtain ⟨t, ht, -⟩ := Option.map_eq_some_iff.mp hf
    obtain ⟨d, hd, -⟩ := Schema.fielded?_eq_some ht
    exact Table.mem_keys_of_mem hd

/-- Fields that are stored under their names have coordinates of their own. -/
theorem nodup_coordinates (hf : g.engine.FieldsKeyed) (config : Config) :
    ((g.sites config).map Site.coordinates).Nodup := by
  have hcoordinates : ∀ typeName (fields : List Field),
      (fields.map (Site.mk g config typeName)).map Site.coordinates =
        (fields.map Field.name).map (Coordinates.mk typeName) := by
    simp [Site.coordinates]
  simp only [sites_eq_flatMap, List.map_flatMap, hcoordinates, List.nodup_flatMap]
  constructor
  · intro typeName _
    constructor
    · intro fields hfields
      rw [Option.mem_toList] at hfields
      have hnames : (fields.values.map Field.name).Nodup := by
        rw [(hf.namedBy hfields).map_name_values]
        exact fields.keys_nodup
      refine List.Nodup.map (fun a b hab => (Coordinates.mk.inj hab).2) ?_
      exact hnames.sublist (List.filter_sublist.map Field.name)
    · cases g.engine.fieldsOf? typeName <;> simp
  · refine g.engine.types.keys_nodup.imp fun {a b} hab => ?_
    intro c hca hcb
    simp only [List.mem_flatMap, List.mem_map] at hca hcb
    obtain ⟨_, -, _, -, rfl⟩ := hca
    obtain ⟨_, -, _, -, hcb⟩ := hcb
    exact hab (Coordinates.mk.inj hcb).1.symm

section Compiled

variable (h : g.compile config rules = .ok c)
include h

theorem fields_of_compile :
    c.plan.fields = .ofList ((g.sites config).filterMap (Site.planned? rules)) :=
  (Compilation.foldlM_addSite_eq_ok h).1

theorem rejections_of_compile :
    c.rejections = (g.sites config).filterMap (Site.rejection? rules) :=
  (Compilation.foldlM_addSite_eq_ok h).2.1

theorem diagnostics_of_compile :
    c.report.diagnostics = (g.sites config).flatMap (Site.diagnostics rules) :=
  (Compilation.foldlM_addSite_eq_ok h).2.2

theorem gapless_of_compile : ∀ s ∈ g.sites config, Gapless (s.compile rules) :=
  Compilation.foldlM_addSite_isOk_iff.mp ⟨c, h⟩

theorem planned_of_compile {e : Coordinates × List Instruction} (he : e ∈ c.plan.fields.entries) :
    ∃ s ∈ g.sites config, s.planned? rules = some e := by
  rw [fields_of_compile h] at he
  rcases Table.mem_foldl_insert he with hm | hm
  · cases hm
  · exact List.mem_filterMap.mp hm

/-- An instruction of the plan stands for a hydration of the field that it is planned at. -/
theorem yields_of_compile {e : Coordinates × List Instruction} (he : e ∈ c.plan.fields.entries) :
    ∃ s ∈ g.sites config, s.coordinates = e.1 ∧
      List.Forall₂ (fun a i => ∃ h, s.Grounds a h ∧ h.Yields rules i) s.field.annotations e.2 := by
  obtain ⟨s, hs, hplanned⟩ := planned_of_compile h he
  refine ⟨s, hs, ?_⟩
  unfold Site.planned? at hplanned
  split at hplanned
  · rename_i f hf
    cases hplanned
    obtain ⟨hs', hhs, hyields, -⟩ := Site.compile_eq_ok_iff.mp hf
    exact ⟨rfl, forall₂_comp (Site.hydrations_eq_ok_iff.mp hhs).1 hyields⟩
  · cases hplanned

end Compiled

theorem compile_isOk (ho : g.engine.ObjectsKeyed) (config : Config) (rules : LiteralRules) :
    ∃ c, g.compile config rules = .ok c := by
  apply Compilation.foldlM_addSite_isOk_iff.mpr
  intro s hs
  apply Site.gapless_compile
  rwa [Site.engine, (mem_sites_iff.mp hs).1]

end Gateway

end HydrationPlan
