import HydrationPlan.Plan.Compile
import HydrationPlan.Proofs.Schema.Alike

/-!
# Hydrations that compile alike

A hydration reads its gateway by look-ups, and of every field the name, the type, the arguments and
whether it is hydrated. On gateways that answer alike it has the same outcome. Where the output
check finds several types to refuse, the gateways may name different ones: what is said of its
errors is kept apart.
-/

namespace HydrationPlan

variable (E : Rejection → Rejection → Prop) (rules : LiteralRules)

/-- The gateways answer alike, and their output checks fail with errors that `E` relates. -/
structure Gateway.Alike (g k : Gateway) : Prop where
  engine : g.engine.Alike k.engine
  literals : rules g.engine = rules k.engine
  service? : ∀ name, g.service? name = k.service? name
  isVirtual : ∀ name, g.isVirtual name = k.isVirtual name
  checkOutput : ∀ declared backing,
    Corresponds E Eq (g.checkOutput declared backing) (k.checkOutput declared backing)

/-- Related fields of one service, reached by the same path. -/
structure Backing.Related (R : Field → Field → Prop) (b d : Backing) : Prop where
  service : b.service = d.service
  parentType : b.parentType = d.parentType
  field : R b.field d.field
  path : b.path = d.path

/-- The same field in gateways that are alike. -/
structure Site.Alike (s t : Site) : Prop where
  gateway : s.gateway.Alike E rules t.gateway
  config : s.config = t.config
  parentType : s.parentType = t.parentType
  field : s.field.Alike t.field

structure Hydration.Alike (h k : Hydration) : Prop where
  site : h.site.Alike E rules k.site
  declaration : h.declaration = k.declaration
  backing : h.backing.Related Field.Alike k.backing

variable {E rules}

theorem Corresponds.liftM {α β : Type} {R : α → β → Prop} {x : Except Rejection α}
    {y : Except Rejection β} (h : Corresponds E R x y) :
    Corresponds (Stop.Corresponds E) R (liftM x : Checked α) (liftM y : Checked β) :=
  h.mapError fun _ _ => .rejected

theorem corresponds_liftM_eq {α : Type} {x y : Checked α} (hE : ∀ c, E c c) (h : x = y) :
    Corresponds (Stop.Corresponds E) Eq x y :=
  h ▸ .refl (.refl hE) (fun _ => rfl) x

theorem Schema.Alike.sourcePaths_eq {s t : Schema} (h : s.Alike t) (arguments : List Argument)
    (matching : Option Matching) (condition : Option Path) :
    s.sourcePaths arguments matching condition = t.sourcePaths arguments matching condition := by
  have hpaths : s.argumentPaths = t.argumentPaths := by
    funext a
    unfold argumentPaths
    cases a.value with
    | sourceField path sourceType =>
      have hfields := h.fieldsOf? sourceType.namedType
      dsimp only
      generalize s.fieldsOf? sourceType.namedType = x at hfields ⊢
      generalize t.fieldsOf? sourceType.namedType = y at hfields ⊢
      cases hfields with
      | none => rfl
      | some hf => simp only [hf.keys_eq]
    | _ => rfl
  rw [sourcePaths, sourcePaths, hpaths]

section Backings

variable {b d : Backing}

theorem Backing.isBatch_eq_of_alike (h : b.Related Field.Alike d) : b.isBatch = d.isBatch := by
  rw [isBatch, isBatch, h.field.type, h.field.arguments]

theorem Backing.resolve_related {R : Field → Field → Prop} (hR : ∀ f g, R f g → f.Similar g)
    {g k : Gateway} (he : g.engine.Related R k.engine)
    (hs : ∀ name, g.service? name = k.service? name) (d : Declaration) :
    Corresponds Eq (Related R) (resolve g d) (resolve k d) := by
  have hlocated := he.locate? hR g.engine.queryRoot d.backingPath.segments
  unfold resolve
  rw [← hs, ← he.queryRoot]
  cases g.service? d.service with
  | none => exact .error rfl
  | some service =>
    dsimp only
    split
    · generalize g.engine.locate? g.engine.queryRoot d.backingPath.segments = x at hlocated ⊢
      generalize k.engine.locate? g.engine.queryRoot d.backingPath.segments = y at hlocated ⊢
      cases hlocated with
      | none => exact .error rfl
      | some hpq => exact .ok ⟨rfl, hpq.1, hpq.2, rfl⟩
    · exact .error rfl

end Backings

/-- The same paths lead to values of the same types, and through lists or not. -/
structure Site.Reaches (s t : Site) : Prop where
  parentType : s.parentType = t.parentType
  sourceField? : ∀ path, Option.Rel
    (fun r q => r.field.type = q.field.type ∧ r.yieldsList = q.yieldsList) (s.sourceField? path)
    (t.sourceField? path)

namespace Site.Reaches

variable {s t : Site} (h : s.Reaches t)
include h

theorem resolveCondition_eq (w : When) (key : Option Path) :
    Condition.resolve s w key = Condition.resolve t w key := by
  unfold Condition.resolve
  rw [h.parentType]
  cases Path.parse w.sourceField with
  | error _ => rfl
  | ok path =>
    dsimp only
    have hreached := h.sourceField? path
    generalize s.sourceField? path = x at hreached ⊢
    generalize t.sourceField? path = y at hreached ⊢
    cases hreached with
    | none => rfl
    | some hrq => simp only [hrq.1]

theorem resolveIdentifier_eq (key : Path) (p : IdentifierPair) :
    Matching.resolveIdentifier s key p = Matching.resolveIdentifier t key p := by
  unfold Matching.resolveIdentifier
  rw [h.parentType]
  cases Path.parse p.sourceId with
  | error _ => rfl
  | ok sourceId =>
    have hreached := isSome_eq_of_rel (h.sourceField? sourceId)
    simp only [← Option.not_isSome, hreached]

theorem resolveMatching_eq (d : Declaration) (arguments : List Argument) :
    Matching.resolve s d arguments = Matching.resolve t d arguments := by
  simp only [Matching.resolve, funext (h.resolveIdentifier_eq _)]

end Site.Reaches

namespace Site.Alike

variable {s t : Site} (h : s.Alike E rules t)
include h

theorem engine : s.engine.Alike t.engine := h.gateway.engine

theorem coordinates_eq : s.coordinates = t.coordinates := by
  rw [coordinates, coordinates, h.parentType, h.field.name]

theorem sourceField? (path : Path) :
    Option.Rel Reached.Alike (s.sourceField? path) (t.sourceField? path) := by
  rw [Site.sourceField?, Site.sourceField?, ← h.parentType]
  exact h.engine.follow? s.parentType path.segments

theorem reaches : s.Reaches t :=
  ⟨h.parentType, fun path => rel_imp (h.sourceField? path) fun _ _ hr =>
    ⟨hr.field.type, hr.yieldsList⟩⟩

end Site.Alike

namespace Hydration.Alike

variable {h k : Hydration} (ha : h.Alike E rules k)
include ha

theorem engine : h.engine.Alike k.engine := ha.site.engine

theorem isBatch_eq : h.isBatch = k.isBatch := Backing.isBatch_eq_of_alike ha.backing

theorem isVirtual_eq : h.isVirtual = k.isVirtual := by
  rw [isVirtual, isVirtual, ha.site.field.type, ha.site.gateway.isVirtual]

theorem target_eq : h.target = k.target := by
  simp only [target, ha.backing.service, ha.backing.path, ha.backing.parentType,
    ha.backing.field.name]

theorem virtualTypes?_eq : h.virtualTypes? = k.virtualTypes? := by
  rw [virtualTypes?, virtualTypes?, ha.isVirtual_eq, ha.site.field.type, ha.backing.field.type,
    ha.engine.virtualTypes_eq]

theorem warnings_eq : h.warnings = k.warnings := by
  simp only [warnings, ignoredOption, ha.isBatch_eq, ha.declaration, ha.backing.path,
    ha.site.coordinates_eq]

theorem checkArgumentSet_eq : h.checkArgumentSet = k.checkArgumentSet := by
  simp only [checkArgumentSet, ha.isBatch_eq, ha.declaration, ha.backing.field.arguments]

theorem remainingArguments_eq : h.remainingArguments = k.remainingArguments := by
  simp only [remainingArguments, ha.declaration, ha.site.field.arguments]

theorem condition_eq (arguments : List Argument) :
    h.condition arguments = k.condition arguments := by
  simp only [condition, ha.declaration, ha.isBatch_eq, ha.site.reaches.resolveCondition_eq]

theorem strategy_eq (arguments : List Argument) : h.strategy arguments = k.strategy arguments := by
  simp only [strategy, ha.declaration, ha.isBatch_eq, ha.site.config, ha.site.field.type,
    ha.site.reaches.resolveMatching_eq]

theorem resolveSupply_eq (a : DeclaredArgument) (backingType : TypeRef) :
    h.resolveSupply rules a backingType = k.resolveSupply rules a backingType := by
  have hliterals : rules h.engine = rules k.engine := ha.site.gateway.literals
  unfold resolveSupply
  simp only [ha.isBatch_eq, ha.site.config, ha.engine.checkAssignable_eq, ha.remainingArguments_eq,
    ha.site.field.arguments, ha.site.parentType, ha.engine.related.inputShape_eq, normalizedDefault,
    hliterals]
  cases a.supply with
  | sourceField path =>
    have hreached := ha.site.sourceField? path
    dsimp only
    generalize h.site.sourceField? path = x at hreached ⊢
    generalize k.site.sourceField? path = y at hreached ⊢
    cases hreached with
    | none => rfl
    | some hrq => simp only [hrq.field.type, hrq.yieldsList]
  | _ => rfl

theorem resolveArguments_eq : h.resolveArguments rules = k.resolveArguments rules := by
  have hargument : h.resolveArgument rules = k.resolveArgument rules := by
    funext a
    simp only [resolveArgument, ha.backing.field.arguments, ha.backing.path,
      ha.resolveSupply_eq]
  rw [resolveArguments, resolveArguments, ha.checkArgumentSet_eq, ha.declaration, hargument]

/-- The output check is the only one whose error may differ. -/
theorem instruction (hE : ∀ c, E c c) :
    Corresponds (Stop.Corresponds E) Eq (h.instruction rules) (k.instruction rules) := by
  have hpaths := ha.engine.sourcePaths_eq
  simp only [Hydration.instruction, ha.resolveArguments_eq, ha.condition_eq,
    ha.strategy_eq, ha.site.config, ha.declaration, ha.site.coordinates_eq, ha.target_eq,
    ha.virtualTypes?_eq, hpaths]
  refine (corresponds_liftM_eq hE rfl).bind ?_
  rintro arguments _ rfl
  refine (corresponds_liftM_eq hE rfl).bind ?_
  rintro condition _ rfl
  refine (corresponds_liftM_eq hE rfl).bind ?_
  rintro strategy _ rfl
  rw [ha.site.field.type, ha.backing.field.type]
  exact (ha.site.gateway.checkOutput _ _).liftM.bind fun _ _ _ => .ok rfl

end Hydration.Alike

/-- Where the same declarations are placed on two sites, the hydrations correspond if they do one by
one. -/
theorem Site.corresponds_hydrations {s t : Site} {R : Hydration → Hydration → Prop}
    (hd : s.declarations = t.declarations) (htype : s.field.type = t.field.type)
    (hunion : ∀ name, s.engine.isUnion name = t.engine.isUnion name)
    (hplace : ∀ d, Corresponds Eq (fun b c => R ⟨s, d, b⟩ ⟨t, d, c⟩)
      (Backing.resolve s.gateway d) (Backing.resolve t.gateway d))
    (hbatch : ∀ h k, R h k → h.isBatch = k.isBatch) :
    Corresponds Eq (List.Forall₂ R) s.hydrations t.hydrations := by
  simp only [Site.hydrations, hd, htype, hunion]
  refine (Corresponds.eq_iff.mpr rfl).bind ?_
  rintro declarations _ rfl
  refine .guard Iff.rfl rfl ?_
  refine .guard Iff.rfl rfl ?_
  refine .guard Iff.rfl rfl ?_
  refine .guard Iff.rfl rfl ?_
  have hplaced : Corresponds Eq (List.Forall₂ R)
      (declarations.mapM fun d => do pure ⟨s, d, ← Backing.resolve s.gateway d⟩)
      (declarations.mapM fun d => do pure ⟨t, d, ← Backing.resolve t.gateway d⟩) := by
    refine .mapM (List.forall₂_same.mpr fun d _ => rfl) ?_
    rintro d _ rfl
    exact (hplace d).bind fun _ _ hR => .ok hR
  refine hplaced.bind fun hs ks hhs => ?_
  refine .guard ?_ rfl (.ok hhs)
  rw [map_eq_map hhs hbatch]

namespace Site.Alike

variable {s t : Site} (h : s.Alike E rules t) (hd : s.declarations = t.declarations)
include h hd

theorem hydrations :
    Corresponds Eq (List.Forall₂ (Hydration.Alike E rules)) s.hydrations t.hydrations :=
  corresponds_hydrations hd h.field.type h.engine.related.isUnion_eq
    (fun d => (Backing.resolve_related (fun _ _ => Field.Alike.similar) h.engine.related
      h.gateway.service? d).imp fun _ _ hb => ⟨h, rfl, hb⟩) fun _ _ ha => ha.isBatch_eq

theorem compile (hE : ∀ c, E c c) :
    Corresponds (Stop.Corresponds E) Eq (s.compile rules) (t.compile rules) := by
  have hhydrations : Corresponds (Stop.Corresponds E) (List.Forall₂ (Hydration.Alike E rules))
      (liftM s.hydrations : Checked _) (liftM t.hydrations : Checked _) := by
    refine (h.hydrations hd).mapError ?_
    rintro c _ rfl
    exact .rejected (hE c)
  refine hhydrations.bind fun hs ks hhs => ?_
  have hinstructions : Corresponds (Stop.Corresponds E) (List.Forall₂ Eq)
      (hs.mapM (Hydration.instruction rules)) (ks.mapM (Hydration.instruction rules)) :=
    .mapM hhs fun _ _ ha => ha.instruction hE
  refine hinstructions.bind fun is js his => .ok ?_
  rw [List.forall₂_eq_eq_eq] at his
  rw [his, List.flatMap_def, List.flatMap_def, map_eq_map hhs fun _ _ ha => ha.warnings_eq]

end Site.Alike

end HydrationPlan
