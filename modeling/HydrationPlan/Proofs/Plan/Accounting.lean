import HydrationPlan.Literal.Coercion
import HydrationPlan.Proofs.Plan.Hydrated

/-!
# Accounts of a compilation

Every hydrated field is either planned or rejected, and the report tells its errors and warnings
once. Coordinates that occur once turn the sums over all fields into statements on each of them.
-/

namespace HydrationPlan

section Selection

variable {α β κ : Type} {l : List α} {f : α → κ} {select : α → Option β} {key : β → κ}

theorem sublist_selected (hkey : ∀ a b, select a = some b → key b = f a) :
    ((l.filterMap select).map key).Sublist (l.map f) := by
  induction l with
  | nil => exact List.Sublist.slnil
  | cons a l ih =>
    cases ha : select a with
    | none =>
      rw [List.filterMap_cons_none ha, List.map_cons]
      exact ih.cons (f a)
    | some b =>
      rw [List.filterMap_cons_some ha, List.map_cons, List.map_cons, hkey a b ha]
      exact ih.cons_cons (f a)

theorem mem_selected_iff (hkey : ∀ a b, select a = some b → key b = f a) (hl : (l.map f).Nodup)
    {a : α} (ha : a ∈ l) :
    f a ∈ (l.filterMap select).map key ↔ (select a).isSome = true := by
  rw [List.mem_map, Option.isSome_iff_exists]
  constructor
  · rintro ⟨b, hb, hab⟩
    obtain ⟨a', ha', hselect⟩ := List.mem_filterMap.mp hb
    -- The member that was selected need not be `a`, but no other has its key.
    have haa : a' = a := List.inj_on_of_nodup_map hl ha' ha ((hkey a' b hselect).symm.trans hab)
    exact ⟨b, haa ▸ hselect⟩
  · rintro ⟨b, hb⟩
    exact ⟨b, List.mem_filterMap.mpr ⟨a, ha, hb⟩, hkey a b hb⟩

theorem filter_flatMap_eq_map {γ : Type} {g : α → List γ} {p : γ → Bool} {h : β → γ}
    (hselect : ∀ a ∈ l, (g a).filter p = (select a).toList.map h) :
    (l.flatMap g).filter p = (l.filterMap select).map h := by
  induction l with
  | nil => rfl
  | cons a l ih =>
    rw [List.forall_mem_cons] at hselect
    rw [List.flatMap_cons, List.filter_append, hselect.1, ih hselect.2]
    cases ha : select a <;> simp [ha]

end Selection

def Annotation.isIndexed : Annotation → Bool
  | .id _ => false
  | .backing h => h.indexed

/-- A warning that the target has no use for an option. -/
def Instruction.ignored (i : Instruction) (code option : String) : Diagnostic :=
  ((Diagnostic.ofWarning code s!"ignored {option}").withMessage
    s!"`{i.target.path.text}` is not a batch field; {option} has no effect").labelled
      i.location "declared here"

theorem Hydration.severity_of_mem_warnings {h : Hydration} {d : Diagnostic}
    (hd : d ∈ h.warnings) : d.severity = .warning := by
  have hignored : ∀ code option, (h.ignoredOption code option).severity = .warning :=
    fun _ _ => rfl
  unfold warnings at hd
  split at hd
  · cases hd
  · rcases List.mem_append.mp hd with hd | hd <;> split at hd
    · rw [List.mem_singleton.mp hd, hignored]
    · cases hd
    · rw [List.mem_singleton.mp hd, hignored]
    · cases hd

namespace Site

variable {rules : LiteralRules} {s : Site} {a : Annotation} {h : Hydration} {i : Instruction}

/-- The batch size that an annotation asks for, an id annotation by its default hydration. -/
def batchSize? (s : Site) : Annotation → Option UInt32
  | .id _ => s.engine.defaultHydration? s.field.type.namedType >>= (·.batchSize)
  | .backing h => h.batchSize

/-- What a call that is not batched ignores of its annotation. -/
def ignoredOptions (s : Site) (a : Annotation) (i : Instruction) : List Diagnostic :=
  if i.isBatch then []
  else
    (if (s.batchSize? a).isSome then [i.ignored "W0001" "batchSize"] else []) ++
      if a.isIndexed then [i.ignored "W0002" "indexed"] else []

/-- The instruction is placed at the field and calls the backing field of the annotation. -/
def Places (s : Site) (a : Annotation) (i : Instruction) : Prop :=
  i.location = s.coordinates ∧ ∃ h, s.Grounds a h ∧ i.target = h.target

theorem options_of_lower {d : Declaration} (hd : s.lower a = .ok d) :
    d.batchSize = s.batchSize? a ∧ d.indexed = a.isIndexed := by
  cases a with
  | id x =>
    rw [lower] at hd
    cases hdefault : s.engine.defaultHydration? s.field.type.namedType with
    | none =>
      rw [hdefault] at hd
      cases hd
    | some t =>
      simp only [hdefault, Declaration.ofDefault, bind_eq_ok_iff, pure_eq_ok_iff] at hd
      obtain ⟨_, -, _, -, rfl⟩ := hd
      simp [batchSize?, hdefault, Annotation.isIndexed]
  | backing x =>
    simp only [lower, Declaration.ofHydrated, bind_eq_ok_iff, pure_eq_ok_iff] at hd
    obtain ⟨_, -, _, -, rfl⟩ := hd
    exact ⟨rfl, rfl⟩

theorem Grounds.places (hg : s.Grounds a h) (hy : h.Yields rules i) : s.Places a i := by
  refine ⟨?_, h, hg, hy.target⟩
  rw [hy.location, hg.site]

theorem Grounds.warnings_eq (hg : s.Grounds a h) (hy : h.Yields rules i) :
    h.warnings = s.ignoredOptions a i := by
  obtain ⟨hsize, hindexed⟩ := options_of_lower hg.declaration
  have hignored : ∀ code option, h.ignoredOption code option = i.ignored code option := by
    intro code option
    rw [Hydration.ignoredOption, Instruction.ignored, hy.target, hy.location]
    rfl
  rw [Hydration.warnings, ignoredOptions, hy.isBatch_eq, hsize, hindexed]
  simp only [hignored]

theorem places_of_compile {f : CompiledField} (hf : s.compile rules = .ok f) :
    List.Forall₂ s.Places s.field.annotations f.instructions ∧
      f.warnings = (List.zipWith s.ignoredOptions s.field.annotations f.instructions).flatten := by
  obtain ⟨hs, hhs, hyields, hwarnings⟩ := compile_eq_ok_iff.mp hf
  have hgrounds := (hydrations_eq_ok_iff.mp hhs).1
  constructor
  · refine (forall₂_comp hgrounds hyields).imp ?_
    rintro a i ⟨h, hg, hy⟩
    exact hg.places hy
  · rw [hwarnings, List.flatMap]
    congr 1
    refine map_eq_zipWith ?_ hgrounds hyields
    exact fun a h i hg hy => hg.warnings_eq hy

theorem planned?_key (s : Site) (e : Coordinates × List Instruction)
    (he : s.planned? rules = some e) : e.1 = s.coordinates := by
  unfold planned? at he
  split at he <;> cases he
  rfl

theorem rejection?_key (s : Site) (r : FieldRejection) (hr : s.rejection? rules = some r) :
    r.coordinates = s.coordinates := by
  unfold rejection? at hr
  split at hr <;> cases hr
  rfl

theorem planned_xor_rejected (hs : Gapless (s.compile rules)) :
    Xor ((s.planned? rules).isSome = true) ((s.rejection? rules).isSome = true) := by
  unfold planned? rejection?
  match hc : s.compile rules with
  | .ok f => simp [Xor]
  | .error (.rejected cause) => simp [Xor]
  | .error (.gap gap) => exact absurd hc (hs gap)

theorem severity_of_compile {f : CompiledField} (hf : s.compile rules = .ok f) :
    ∀ d ∈ f.warnings, d.severity = .warning := by
  obtain ⟨hs, -, -, hwarnings⟩ := compile_eq_ok_iff.mp hf
  intro d hd
  rw [hwarnings, List.mem_flatMap] at hd
  obtain ⟨h, -, hd⟩ := hd
  exact Hydration.severity_of_mem_warnings hd

theorem filter_diagnostics_isError (s : Site) :
    (s.diagnostics rules).filter Diagnostic.isError =
      (s.rejection? rules).toList.map FieldRejection.diagnostic := by
  unfold diagnostics rejection?
  match hc : s.compile rules with
  | .ok f =>
    simp only [Option.toList_none, List.map_nil, List.filter_eq_nil_iff]
    intro d hd
    simp [Diagnostic.isError, severity_of_compile hc d hd]
  | .error (.rejected cause) => rfl
  | .error (.gap gap) => rfl

theorem filter_diagnostics_isWarning (s : Site) :
    (s.diagnostics rules).filter Diagnostic.isWarning =
      ((s.planned? rules).map fun e =>
        (List.zipWith s.ignoredOptions s.field.annotations e.2).flatten).getD [] := by
  unfold diagnostics planned?
  match hc : s.compile rules with
  | .ok f =>
    simp only [Option.map_some, Option.getD_some, ← (places_of_compile hc).2,
      List.filter_eq_self]
    intro d hd
    simp [Diagnostic.isWarning, severity_of_compile hc d hd]
  | .error (.rejected cause) => rfl
  | .error (.gap gap) => rfl

end Site

namespace Compilation

/-- The warnings that the plan of a field gives rise to. -/
def ignoredOptions (c : Compilation) (s : Site) : List Diagnostic :=
  ((c.plan.get? s.coordinates).map fun instructions =>
    (List.zipWith s.ignoredOptions s.field.annotations instructions).flatten).getD []

/-- The compilation tells the outcome of each field once and in order, and nothing else. -/
structure Accounts (c : Compilation) (sites : List Site) : Prop where
  nodup : (sites.map Site.coordinates).Nodup
  planned : c.plan.fields.keys.Sublist (sites.map Site.coordinates)
  rejected : (c.rejections.map (·.coordinates)).Sublist (sites.map Site.coordinates)
  either : ∀ s ∈ sites, Xor (s.coordinates ∈ c.plan.fields.keys)
    (s.coordinates ∈ c.rejections.map (·.coordinates))
  places : ∀ s ∈ sites, ∀ instructions, c.plan.get? s.coordinates = some instructions →
    List.Forall₂ s.Places s.field.annotations instructions
  errors : c.report.errors = c.rejections.map FieldRejection.diagnostic
  warnings : c.report.warnings = sites.flatMap c.ignoredOptions
  isOk : c.isOk = true ↔ c.rejections = []

end Compilation

namespace Gateway

variable {g : Gateway} {config : Config} {rules : LiteralRules} {c : Compilation}

section Compiled

variable (hf : g.engine.FieldsKeyed) (h : g.compile config rules = .ok c)
include hf h

theorem entries_of_compile :
    c.plan.fields.entries = (g.sites config).filterMap (Site.planned? rules) := by
  rw [fields_of_compile h]
  apply Table.entries_ofList
  exact (nodup_coordinates hf config).sublist (sublist_selected Site.planned?_key)

theorem mem_plan_iff {s : Site} (hs : s ∈ g.sites config) :
    s.coordinates ∈ c.plan.fields.keys ↔ (s.planned? rules).isSome = true := by
  rw [Table.keys, entries_of_compile hf h]
  exact mem_selected_iff Site.planned?_key (nodup_coordinates hf config) hs

theorem mem_rejections_iff {s : Site} (hs : s ∈ g.sites config) :
    s.coordinates ∈ c.rejections.map (·.coordinates) ↔ (s.rejection? rules).isSome = true := by
  rw [rejections_of_compile h]
  exact mem_selected_iff Site.rejection?_key (nodup_coordinates hf config) hs

theorem get?_coordinates {s : Site} (hs : s ∈ g.sites config) :
    c.plan.get? s.coordinates = (s.planned? rules).map Prod.snd := by
  cases hp : s.planned? rules with
  | none =>
    rw [Plan.get?, Option.map_none, Table.get?_eq_none_iff, mem_plan_iff hf h hs, hp]
    simp
  | some e =>
    rw [Plan.get?, Option.map_some, Table.get?_eq_some_iff, entries_of_compile hf h,
      ← Site.planned?_key s e hp]
    exact List.mem_filterMap.mpr ⟨s, hs, hp⟩

theorem accounts_of_compile : c.Accounts (g.sites config) := by
  have herrors : c.report.errors = c.rejections.map FieldRejection.diagnostic := by
    rw [Report.errors, diagnostics_of_compile h, rejections_of_compile h]
    exact filter_flatMap_eq_map fun s _ => s.filter_diagnostics_isError
  refine ⟨nodup_coordinates hf config, ?_, ?_, ?_, ?_, herrors, ?_, ?_⟩
  · rw [Table.keys, entries_of_compile hf h]
    exact sublist_selected Site.planned?_key
  · rw [rejections_of_compile h]
    exact sublist_selected Site.rejection?_key
  · intro s hs
    rw [mem_plan_iff hf h hs, mem_rejections_iff hf h hs]
    exact Site.planned_xor_rejected (gapless_of_compile h s hs)
  · intro s hs instructions hget
    rw [get?_coordinates hf h hs, Site.planned?] at hget
    split at hget
    · rename_i f hc
      cases hget
      exact (Site.places_of_compile hc).1
    · cases hget
  · rw [Report.warnings, diagnostics_of_compile h, List.filter_flatMap]
    refine List.flatMap_congr fun s hs => ?_
    rw [s.filter_diagnostics_isWarning, Compilation.ignoredOptions, get?_coordinates hf h hs,
      Option.map_map]
    rfl
  · have hany : c.report.hasErrors = true ↔ c.report.errors ≠ [] := by
      simp [Report.hasErrors, Report.errors, List.filter_eq_nil_iff]
    rw [Compilation.isOk, Bool.not_eq_true', ← Bool.not_eq_true, hany, not_not, herrors,
      List.map_eq_nil_iff]

end Compiled

/-- A gateway whose fields are stored under their names accounts for its hydrated fields in schema
order, unless an input object cannot be shaped; this cannot happen if its objects are stored under
their names. -/
theorem compile_accounts (hf : g.engine.FieldsKeyed) (config : Config) (rules : LiteralRules) :
    (∃! sites, g.InSchemaOrder config sites) ∧
      (∀ sites, g.InSchemaOrder config sites → ∀ c, g.compile config rules = .ok c →
        c.Accounts sites) ∧
      (g.engine.ObjectsKeyed → ∃ c, g.compile config rules = .ok c) := by
  refine ⟨⟨_, g.inSchemaOrder_sites config, fun _ h => h.eq_sites⟩, ?_, ?_⟩
  · rintro sites h c hc
    rw [h.eq_sites]
    exact accounts_of_compile hf hc
  · exact fun ho => compile_isOk ho config rules

/-- Houses with a pet of the given type that is found by the tenant. The type of tenants has no
fields, and the given name. -/
def houses (tenant : String) (petType : TypeRef) : Gateway :=
  let pet := FieldedType.ofName "Pet" |>.withField (.ofType "id" (.named "ID"))
  let owner := FieldedType.ofName "Owner" |>.withField (.ofType "id" (.named "ID"))
  let ownerInput := InputType.ofName "OwnerInput" |>.withField ⟨"id", none, .named "ID", none⟩
  let query := FieldedType.ofName "Query"
    |>.withField (Field.ofType "petOf" (.named "Pet")
      |>.withArgument ⟨"owner", none, .named "OwnerInput", none⟩)
    |>.withField (Field.ofType "petById" (.named "Pet")
      |>.withArgument ⟨"id", none, .named "ID", none⟩)
  let house := FieldedType.ofName "House"
    |>.withField (.ofType "tenant" (.named "Tenant"))
    |>.withField (.ofType "mascotId" (.named "ID"))
    |>.withField (Field.ofType "pet" petType
      |>.withHydrated (Hydrated.ofBacking "pets" "petOf"
        |>.withArgument "owner" (.string "$source.tenant")))
    |>.withField (Field.ofType "mascot" (.nullable (.named "Pet"))
      |>.withHydrated (Hydrated.ofBacking "pets" "petById"
        |>.withArgument "id" (.string "$source.mascotId")
        |>.withBatchSize 10
        |>.withIndexed))
  let engine := Schema.build
    [.object query, .object pet, .object house, .object owner, .inputObject ownerInput]
  ofEngine { engine with types := engine.types.insert "Tenant" (.object (.ofName tenant)) }
    |>.withService ⟨"pets", .build [.object query, .object pet, .inputObject ownerInput]⟩

/-- One pet is planned, and the other is rejected because it cannot be absent. -/
def tenantHouses : Gateway := houses "Tenant" (.named "Pet")

/-- Tenants are stored as owners. -/
def ownerHouses : Gateway := houses "Owner" (.nullable (.named "Pet"))

theorem tenantHouses_accounted :
    tenantHouses.engine.FieldsKeyed ∧ tenantHouses.engine.ObjectsKeyed ∧
      ∃ sites c, tenantHouses.InSchemaOrder .standard sites ∧
        tenantHouses.compile .standard Literal.rules = .ok c ∧ c.Accounts sites ∧
        sites.map Site.coordinates = [⟨"House", "pet"⟩, ⟨"House", "mascot"⟩] ∧
        c.plan.fields.keys = [⟨"House", "mascot"⟩] ∧
        c.rejections.map (·.coordinates) = [⟨"House", "pet"⟩] ∧
        c.report.warnings.map (·.code) = ["W0001", "W0002"] := by
  have hf : tenantHouses.engine.FieldsKeyed := by decide +kernel
  have ho : tenantHouses.engine.ObjectsKeyed := by decide +kernel
  have htold : (tenantHouses.compile .standard Literal.rules).map (fun c =>
      (c.plan.fields.keys, c.rejections.map (·.coordinates), c.report.warnings.map (·.code))) =
      .ok ([⟨"House", "mascot"⟩], [⟨"House", "pet"⟩], ["W0001", "W0002"]) := by
    decide +kernel
  obtain ⟨⟨sites, hsites, -⟩, haccounts, hcompiles⟩ :=
    compile_accounts hf .standard Literal.rules
  obtain ⟨c, hc⟩ := hcompiles ho
  have hcoordinates : sites.map Site.coordinates =
      [⟨"House", "pet"⟩, ⟨"House", "mascot"⟩] := by
    rw [hsites.eq_sites]
    decide +kernel
  rw [hc, Except.map, Except.ok.injEq, Prod.mk.injEq, Prod.mk.injEq] at htold
  exact ⟨hf, ho, sites, c, hsites, hc, haccounts sites hsites c hc, hcoordinates, htold⟩

/-- What is checked as an owner is shaped as a tenant. -/
theorem ownerHouses_not_accounted :
    ownerHouses.engine.FieldsKeyed ∧
      ownerHouses.compile .standard Literal.rules =
        .error ⟨"Tenant", "OwnerInput", "id"⟩ ∧
      ¬ ∃ sites c, ownerHouses.InSchemaOrder .standard sites ∧
        ownerHouses.compile .standard Literal.rules = .ok c ∧ c.Accounts sites := by
  have hgap : ownerHouses.compile .standard Literal.rules =
      .error ⟨"Tenant", "OwnerInput", "id"⟩ := by cbv
  refine ⟨by decide +kernel, hgap, ?_⟩
  rintro ⟨sites, c, -, hc, -⟩
  rw [hgap] at hc
  cases hc

end Gateway

end HydrationPlan
