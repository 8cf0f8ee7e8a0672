import HydrationPlan.Proofs.Hydration.Alike
import HydrationPlan.Proofs.Plan.Accounting

/-!
# What a compilation tells of one field

The plan, the rejections and the report are looked up at the coordinates of a field. What they tell
there depends on the outcomes of the hydrated fields with these coordinates, in their order.
-/

namespace HydrationPlan

namespace Compilation

/-- The causes for which the field is rejected. -/
def causesAt (c : Compilation) (x : Coordinates) : List Rejection :=
  (c.rejections.filter (·.coordinates = x)).map (·.cause)

def diagnosticsAt (c : Compilation) (x : Coordinates) : List Diagnostic :=
  c.report.diagnostics.filter fun d => d.labels.any (·.coordinates = x)

def warningsAt (c : Compilation) (x : Coordinates) : List Diagnostic :=
  (c.diagnosticsAt x).filter Diagnostic.isWarning

/-- The compilations tell the same of the field, except that the causes of its rejection are only
related. -/
structure AgreesAt (E : Rejection → Rejection → Prop) (x : Coordinates) (c d : Compilation) :
    Prop where
  instructions : c.plan.get? x = d.plan.get? x
  causes : List.Forall₂ E (c.causesAt x) (d.causesAt x)
  warnings : c.warningsAt x = d.warningsAt x

theorem mem_keys_iff_of_get?_eq {c d : Compilation} {x : Coordinates}
    (h : c.plan.get? x = d.plan.get? x) : x ∈ c.plan.fields.keys ↔ x ∈ d.plan.fields.keys := by
  rw [Table.mem_keys_iff, Table.mem_keys_iff]
  unfold Plan.get? at h
  rw [h]

end Compilation

section Selection

variable {α β κ : Type} [DecidableEq κ] {f : α → κ} {select : α → Option β} {key : β → κ}

theorem filter_selected (hkey : ∀ a b, select a = some b → key b = f a) (l : List α) (x : κ) :
    (l.filterMap select).filter (key · = x) = (l.filter (f · = x)).filterMap select := by
  rw [List.filter_filterMap, List.filterMap_filter]
  congr 1
  funext a
  cases ha : select a with
  | none => simp
  | some b => by_cases hx : f a = x <;> simp [Option.filter, hkey a b ha, hx]

theorem flatMap_eq_of_unique {g : κ → List β} {l : List κ} (hl : l.Nodup) {k : κ}
    (hg : ∀ a ∈ l, a ≠ k → g a = []) (hk : k ∉ l → g k = []) : l.flatMap g = g k := by
  induction l with
  | nil => exact (hk List.not_mem_nil).symm
  | cons a l ih =>
    rw [List.nodup_cons] at hl
    rw [List.flatMap_cons]
    by_cases ha : a = k
    · subst ha
      have hrest : l.flatMap g = [] := by
        rw [List.flatMap_eq_nil_iff]
        exact fun b hb => hg b (List.mem_cons_of_mem a hb) fun hba => hl.1 (hba ▸ hb)
      rw [hrest, List.append_nil]
    · rw [hg a List.mem_cons_self ha, List.nil_append]
      refine ih hl.2 (fun b hb => hg b (List.mem_cons_of_mem a hb)) fun hkl => hk ?_
      rw [List.mem_cons, not_or]
      exact ⟨Ne.symm ha, hkl⟩

theorem filter_flatMap_of_key {g : α → List β} {p : β → Bool} {q : α → Bool}
    (hp : ∀ a, ∀ b ∈ g a, p b = q a) (l : List α) :
    (l.flatMap g).filter p = (l.filter q).flatMap g := by
  induction l with
  | nil => rfl
  | cons a l ih =>
    rw [List.flatMap_cons, List.filter_append, ih]
    cases hq : q a with
    | true =>
      rw [List.filter_eq_self.mpr fun b hb => (hp a b hb).trans hq, List.filter_cons_of_pos hq,
        List.flatMap_cons]
    | false =>
      rw [List.filter_eq_nil_iff.mpr fun b hb => by simp [hp a b hb, hq],
        List.filter_cons_of_neg (by simp [hq]), List.nil_append]

end Selection

namespace Site

variable {rules : LiteralRules} {s t : Site}

theorem labels_of_compile {f : CompiledField} (hf : s.compile rules = .ok f) :
    ∀ d ∈ f.warnings, ∃ message, d.labels = [⟨s.coordinates, message⟩] := by
  obtain ⟨hs, hhs, -, hwarnings⟩ := compile_eq_ok_iff.mp hf
  intro d hd
  rw [hwarnings, List.mem_flatMap] at hd
  obtain ⟨h, hh, hd⟩ := hd
  have hignored : ∀ code option, (h.ignoredOption code option).labels =
      [⟨s.coordinates, "declared here"⟩] := by
    intro code option
    rw [← site_of_mem_hydrations hhs h hh]
    rfl
  unfold Hydration.warnings at hd
  split at hd
  · cases hd
  · rcases List.mem_append.mp hd with hd | hd <;> split at hd
    · exact ⟨_, List.mem_singleton.mp hd ▸ hignored _ _⟩
    · cases hd
    · exact ⟨_, List.mem_singleton.mp hd ▸ hignored _ _⟩
    · cases hd

theorem labels_of_diagnostics (s : Site) :
    ∀ d ∈ s.diagnostics rules, ∃ message, d.labels = [⟨s.coordinates, message⟩] := by
  unfold diagnostics
  match hc : s.compile rules with
  | .ok f => exact labels_of_compile hc
  | .error (.rejected cause) =>
    intro d hd
    rw [List.mem_singleton.mp hd]
    exact ⟨_, rfl⟩
  | .error (.gap gap) => nofun

/-- The fields have the same coordinates, and corresponding outcomes. -/
structure Matches (E : Rejection → Rejection → Prop) (rules : LiteralRules) (s t : Site) :
    Prop where
  coordinates : s.coordinates = t.coordinates
  compile : Corresponds (Stop.Corresponds E) Eq (s.compile rules) (t.compile rules)

namespace Matches

variable {E : Rejection → Rejection → Prop} (h : s.Matches E rules t)
include h

theorem planned?_eq : s.planned? rules = t.planned? rules := by
  have hcompile := h.compile
  unfold planned?
  rw [h.coordinates]
  generalize s.compile rules = x at hcompile ⊢
  generalize t.compile rules = y at hcompile ⊢
  cases hcompile with
  | ok hf => rw [hf]
  | error _ => rfl

theorem rejection? : Option.Rel (fun a b => E a.cause b.cause) (s.rejection? rules)
    (t.rejection? rules) := by
  have hcompile := h.compile
  unfold Site.rejection?
  generalize s.compile rules = x at hcompile ⊢
  generalize t.compile rules = y at hcompile ⊢
  cases hcompile with
  | ok _ => exact .none
  | error he =>
    cases he with
    | rejected he => exact .some he
    | gap _ => exact .none

theorem warnings_eq : (s.diagnostics rules).filter Diagnostic.isWarning =
    (t.diagnostics rules).filter Diagnostic.isWarning := by
  have hcompile := h.compile
  unfold diagnostics
  generalize s.compile rules = x at hcompile ⊢
  generalize t.compile rules = y at hcompile ⊢
  cases hcompile with
  | ok hf => rw [hf]
  | error he => cases he <;> rfl

theorem gapless_iff : Gapless (s.compile rules) ↔ Gapless (t.compile rules) := by
  have hcompile := h.compile
  unfold Gapless
  generalize s.compile rules = x at hcompile ⊢
  generalize t.compile rules = y at hcompile ⊢
  cases hcompile with
  | ok _ => simp
  | error he => cases he <;> simp

end Matches

theorem Alike.matches {E : Rejection → Rejection → Prop} (hE : ∀ c, E c c)
    (h : s.Alike E rules t) (hfield : s.field = t.field) : s.Matches E rules t := by
  refine ⟨h.coordinates_eq, h.compile ?_ hE⟩
  simp only [declarations, hfield, h.engine.related.defaultHydration?_eq]

theorem Matches.compile_eq (h : s.Matches Eq rules t) : s.compile rules = t.compile rules := by
  have hstop : Stop.Corresponds Eq = Eq := by
    funext a b
    exact propext Stop.Corresponds.eq_iff
  have hcompile := h.compile
  rwa [hstop, Corresponds.eq_iff] at hcompile

theorem Matches.diagnostics_eq (h : s.Matches Eq rules t) :
    s.diagnostics rules = t.diagnostics rules := by
  rw [diagnostics, diagnostics, h.compile_eq, h.coordinates]

end Site

namespace Gateway

variable {g k : Gateway} {config : Config} {rules : LiteralRules} {c d : Compilation}
variable {x : Coordinates} {E : Rejection → Rejection → Prop}

/-- The hydrated fields with the coordinates. There are several of them if fields are stored under
keys that are not their names. -/
def sitesAt (g : Gateway) (config : Config) (x : Coordinates) : List Site :=
  (g.sites config).filter (·.coordinates = x)

theorem mem_sitesAt {s : Site} (h : s ∈ g.sites config) : s ∈ g.sitesAt config s.coordinates :=
  List.mem_filter.mpr ⟨h, decide_eq_true rfl⟩

/-- They all are declared by the one type with that name. -/
theorem sitesAt_eq (g : Gateway) (config : Config) (x : Coordinates) :
    g.sitesAt config x = (g.engine.fieldsOf? x.typeName).toList.flatMap fun fields =>
      (fields.values.filter fun f => f.isHydrated && f.name = x.fieldName).map
        (Site.mk g config x.typeName) := by
  have hat : ∀ typeName (fields : Table String Field),
      ((fields.values.filter Field.isHydrated).map (Site.mk g config typeName)).filter
          (·.coordinates = x) =
        if typeName = x.typeName then
          (fields.values.filter fun f => f.isHydrated && f.name = x.fieldName).map
            (Site.mk g config x.typeName)
        else [] := by
    intro typeName fields
    rw [List.filter_map, List.filter_filter]
    split
    · rename_i ht
      subst ht
      congr 1
      refine List.filter_congr fun f _ => ?_
      cases x
      simp [Site.coordinates, Bool.and_comm]
    · rename_i ht
      rw [List.map_eq_nil_iff, List.filter_eq_nil_iff]
      rintro f -
      cases x
      simp_all [Site.coordinates]
  have hkeys : g.engine.types.keys.Nodup := g.engine.types.keys_nodup
  rw [sitesAt, sites_eq_flatMap, List.filter_flatMap]
  simp only [List.filter_flatMap, hat]
  rw [flatMap_eq_of_unique hkeys (k := x.typeName)]
  · simp
  · intro typeName _ hne
    simp [hne]
  · intro hkey
    have hnone : g.engine.types.get? x.typeName = none := (Table.get?_eq_none_iff _ _).mpr hkey
    simp [Schema.fieldsOf?, Schema.fielded?, Schema.type?, hnone]

section Compiled

variable (h : g.compile config rules = .ok c)
include h

theorem get?_of_compile (x : Coordinates) : c.plan.get? x =
    ((g.sitesAt config x).filterMap (Site.planned? rules)).getLast?.map Prod.snd := by
  rw [Plan.get?, fields_of_compile h, Table.get?_ofList, filter_selected Site.planned?_key, sitesAt]

theorem causesAt_of_compile (x : Coordinates) : c.causesAt x =
    ((g.sitesAt config x).filterMap (Site.rejection? rules)).map (·.cause) := by
  rw [Compilation.causesAt, rejections_of_compile h, filter_selected Site.rejection?_key, sitesAt]

theorem diagnosticsAt_of_compile (x : Coordinates) : c.diagnosticsAt x =
    (g.sitesAt config x).flatMap (Site.diagnostics rules) := by
  rw [Compilation.diagnosticsAt, diagnostics_of_compile h, sitesAt]
  refine filter_flatMap_of_key (fun s d hd => ?_) _
  obtain ⟨message, hlabels⟩ := s.labels_of_diagnostics d hd
  rw [hlabels]
  simp

theorem warningsAt_of_compile (x : Coordinates) : c.warningsAt x =
    (g.sitesAt config x).flatMap fun s => (s.diagnostics rules).filter Diagnostic.isWarning := by
  rw [Compilation.warningsAt, diagnosticsAt_of_compile h, List.filter_flatMap]

end Compiled

section Matched

variable {config' : Config}
variable (hmatch : List.Forall₂ (Site.Matches E rules) (g.sitesAt config x) (k.sitesAt config' x))
variable (hc : g.compile config rules = .ok c) (hd : k.compile config' rules = .ok d)
include hmatch hc hd

theorem agreesAt_of_compile : Compilation.AgreesAt E x c d := by
  refine ⟨?_, ?_, ?_⟩
  · rw [get?_of_compile hc, get?_of_compile hd,
      filterMap_eq_filterMap hmatch fun _ _ h => h.planned?_eq]
  · rw [causesAt_of_compile hc, causesAt_of_compile hd, List.forall₂_map_left_iff,
      List.forall₂_map_right_iff]
    exact List.rel_filterMap (fun _ _ h => Site.Matches.rejection? h) hmatch
  · rw [warningsAt_of_compile hc, warningsAt_of_compile hd, List.flatMap_def, List.flatMap_def,
      map_eq_map hmatch fun _ _ h => h.warnings_eq]

end Matched

theorem diagnosticsAt_eq_of_compile {config' : Config}
    (hmatch : List.Forall₂ (Site.Matches Eq rules) (g.sitesAt config x) (k.sitesAt config' x))
    (hc : g.compile config rules = .ok c) (hd : k.compile config' rules = .ok d) :
    c.diagnosticsAt x = d.diagnosticsAt x := by
  rw [diagnosticsAt_of_compile hc, diagnosticsAt_of_compile hd, List.flatMap_def,
    List.flatMap_def, map_eq_map hmatch fun _ _ h => h.diagnostics_eq]

end Gateway

end HydrationPlan
