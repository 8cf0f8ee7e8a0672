import HydrationPlan.Proofs.Hydration.Instruction

/-!
# What a hydrated field compiles to

A field is taken apart into its annotations. Each of them is lowered to a declaration, placed next
to its backing field and turned into an instruction, and the checks between them are facts about
the lists that arise.
-/

namespace HydrationPlan

/-- What makes a field hydrated. -/
inductive Annotation
  | id (h : IdHydrated)
  | backing (h : Hydrated)

/-- The annotations of a field in the order in which they are compiled. -/
def Field.annotations (f : Field) : List Annotation :=
  f.idHydrated.toList.map .id ++ f.hydrated.map .backing

theorem Field.isHydrated_iff (f : Field) : f.isHydrated = true ↔ f.annotations ≠ [] := by
  cases hi : f.idHydrated <;> simp [isHydrated, annotations, hi]

theorem allEqual_iff {l : List Bool} : allEqual l = true ↔ ∀ a ∈ l, ∀ b ∈ l, a = b := by
  cases l with
  | nil => simp [allEqual]
  | cons x l =>
    simp only [allEqual, List.all_eq_true, beq_iff_eq]
    constructor
    · intro h a ha b hb
      have hx : ∀ c ∈ x :: l, c = x := List.forall_mem_cons.mpr ⟨rfl, h⟩
      rw [hx a ha, hx b hb]
    · exact fun h a ha => h a (List.mem_cons_of_mem x ha) x List.mem_cons_self

theorem allEqual_map_iff {α : Type} {l : List α} {f : α → Bool} :
    allEqual (l.map f) = true ↔ ∀ x ∈ l, ∀ y ∈ l, f x = f y := by
  simp only [allEqual_iff, List.forall_mem_map]

namespace Site

variable {rules : LiteralRules} {s : Site}

/-- An id annotation needs the default hydration of the type of the field. -/
def lower (s : Site) : Annotation → Except Rejection Declaration
  | .id h =>
    match s.engine.defaultHydration? s.field.type.namedType with
    | none => .error (.missingDefaultHydration s.field.type.namedType)
    | some d => Declaration.ofDefault d h
  | .backing h => Declaration.ofHydrated h

theorem declarations_eq_mapM (s : Site) : s.declarations = s.field.annotations.mapM s.lower := by
  have hbacking : s.lower ∘ Annotation.backing = Declaration.ofHydrated := rfl
  rw [Field.annotations, List.mapM_append, List.mapM_map, List.mapM_map, hbacking]
  unfold declarations
  cases hi : s.field.idHydrated with
  | none => rfl
  | some h =>
    dsimp only
    cases hd : s.engine.defaultHydration? s.field.type.namedType with
    | none =>
      simp [lower, hd]
      rfl
    | some d => simp [lower, hd]

/-- The hydration stands for the annotation: lowered, and placed next to its backing field. -/
structure Grounds (s : Site) (a : Annotation) (h : Hydration) : Prop where
  site : h.site = s
  declaration : s.lower a = .ok h.declaration
  backing : Backing.resolve s.gateway h.declaration = .ok h.backing

theorem hydrations_eq_ok_iff {hs : List Hydration} :
    s.hydrations = .ok hs ↔
      List.Forall₂ s.Grounds s.field.annotations hs ∧ s.field.type.isNullable = true ∧
        (1 < hs.length → s.engine.isUnion s.field.type.namedType = true) ∧
        allEqual (hs.map (·.declaration.condition.isSome)) = true ∧
        allEqual (hs.map (·.declaration.indexed)) = true ∧
        allEqual (hs.map Hydration.isBatch) = true := by
  have hplace : ∀ d h, (do pure ⟨s, d, ← Backing.resolve s.gateway d⟩ :
      Except Rejection Hydration) = .ok h ↔
      h.declaration = d ∧ h.site = s ∧ Backing.resolve s.gateway d = .ok h.backing := by
    intro d h
    simp only [bind_eq_ok_iff, pure_eq_ok_iff]
    constructor
    · rintro ⟨b, hb, rfl⟩
      exact ⟨rfl, rfl, hb⟩
    · rintro ⟨rfl, rfl, hb⟩
      exact ⟨_, hb, rfl⟩
  simp only [hydrations, declarations_eq_mapM, bind_eq_ok_iff, guard_eq_ok_iff, mapM_eq_ok_iff,
    hplace, pure_eq_ok_iff, Bool.not_eq_true', Bool.not_eq_false, Bool.and_eq_true,
    decide_eq_true_eq, not_and]
  constructor
  · rintro ⟨ds, hlower, hnull, hunion, hcondition, hindexed, hs', hplaced, hbatch, rfl⟩
    have hds : ds = hs'.map Hydration.declaration := by
      rw [map_eq_of_forall₂ (f := id) (hplaced.imp fun d h hd => hd.1), List.map_id]
    subst hds
    simp only [List.map_map, List.length_map] at hcondition hindexed hunion
    refine ⟨?_, hnull, hunion, hcondition, hindexed, hbatch⟩
    refine (forall₂_comp hlower hplaced).imp ?_
    rintro a h ⟨d, hd, rfl, hsite, hbacking⟩
    exact ⟨hsite, hd, hbacking⟩
  · rintro ⟨hgrounds, hnull, hunion, hcondition, hindexed, hbatch⟩
    refine ⟨hs.map Hydration.declaration, ?_, hnull, ?_, ?_, ?_, hs, ?_, hbatch, rfl⟩
    · exact List.forall₂_map_right_iff.mpr (hgrounds.imp fun a h hg => hg.declaration)
    · rwa [List.length_map]
    · rwa [List.map_map]
    · rwa [List.map_map]
    · rw [List.forall₂_map_left_iff, List.forall₂_same]
      intro h hh
      obtain ⟨a, -, hg⟩ := exists_of_mem_right hgrounds hh
      exact ⟨rfl, hg.site, hg.backing⟩

theorem compile_eq_ok_iff {f : CompiledField} :
    s.compile rules = .ok f ↔ ∃ hs, s.hydrations = .ok hs ∧
      List.Forall₂ (Hydration.Yields rules) hs f.instructions ∧
      f.warnings = hs.flatMap Hydration.warnings := by
  simp only [compile, bind_eq_ok_iff, liftM_eq_ok_iff, mapM_eq_ok_iff, pure_eq_ok_iff,
    Hydration.instruction_eq_ok_iff]
  constructor
  · rintro ⟨hs, hhs, is, his, rfl⟩
    exact ⟨hs, hhs, his, rfl⟩
  · rintro ⟨hs, hhs, his, hws⟩
    exact ⟨hs, hhs, _, his, hws ▸ rfl⟩

theorem site_of_mem_hydrations {hs : List Hydration} (h : s.hydrations = .ok hs) :
    ∀ x ∈ hs, x.site = s := by
  intro x hx
  obtain ⟨a, -, ha⟩ := exists_of_mem_right (hydrations_eq_ok_iff.mp h).1 hx
  exact ha.site

theorem resolve_of_mem_hydrations {hs : List Hydration} (h : s.hydrations = .ok hs) :
    ∀ x ∈ hs, Backing.resolve s.gateway x.declaration = .ok x.backing := by
  intro x hx
  obtain ⟨a, -, ha⟩ := exists_of_mem_right (hydrations_eq_ok_iff.mp h).1 hx
  exact ha.backing

/-- Where objects are stored under their names, a field is accepted or rejected. -/
theorem gapless_compile (ho : s.engine.ObjectsKeyed) : Gapless (s.compile rules) := by
  refine (gapless_liftM _).bind fun hs hhs => ?_
  rw [liftM_eq_ok_iff] at hhs
  refine (gapless_mapM fun h hh => ?_).bind fun _ _ => gapless_pure _
  apply Hydration.gapless_instruction
  rwa [Hydration.engine, site_of_mem_hydrations hhs h hh]

end Site

end HydrationPlan
