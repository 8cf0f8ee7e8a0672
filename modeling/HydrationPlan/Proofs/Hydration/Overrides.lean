import HydrationPlan.Proofs.Assignability.Overrides
import HydrationPlan.Proofs.Hydration.Alike

/-!
# A field under more enum overrides

The configuration is read where types are compared, and for a default batch size and a default
timeout. With further enum overrides a field has the outcome that it had, unless it was rejected for
a clash of types.
-/

namespace HydrationPlan

/-- Two types met that do not fit. -/
inductive Rejection.IsClash : Rejection → Prop
  | inputType (argument supplied required : String) :
      IsClash (.incompatibleInputType argument supplied required)
  | field (argument suppliedType suppliedField inputType inputField : String) :
      IsClash (.incompatibleField argument suppliedType suppliedField inputType inputField)

inductive Stop.IsClash : Stop → Prop
  | rejected {cause : Rejection} (h : cause.IsClash) : IsClash (.rejected cause)

theorem Mismatch.IsClash.rejection {m : Mismatch} (h : m.IsClash) (argument : String) :
    (m.rejection argument).IsClash := by
  cases h with
  | inputType _ _ => exact .inputType _ _ _
  | field _ _ _ _ => exact .field _ _ _ _ _

def Site.configured (s : Site) (d : Config) : Site := { s with config := d }

def Hydration.configured (h : Hydration) (d : Config) : Hydration :=
  { h with site := h.site.configured d }

namespace Hydration

section Configured

variable (h : Hydration) (d : Config)

@[simp] theorem configured_engine : (h.configured d).engine = h.engine := rfl

@[simp] theorem configured_isBatch : (h.configured d).isBatch = h.isBatch := rfl

@[simp] theorem configured_backing : (h.configured d).backing = h.backing := rfl

@[simp] theorem configured_declaration : (h.configured d).declaration = h.declaration := rfl

@[simp] theorem configured_config : (h.configured d).site.config = d := rfl

@[simp] theorem configured_field : (h.configured d).site.field = h.site.field := rfl

@[simp] theorem configured_parentType : (h.configured d).site.parentType = h.site.parentType := rfl

@[simp] theorem configured_sourceField? (path : Path) :
    (h.configured d).site.sourceField? path = h.site.sourceField? path := rfl

@[simp] theorem configured_checkArgumentSet :
    (h.configured d).checkArgumentSet = h.checkArgumentSet := rfl

@[simp] theorem configured_remainingArguments :
    (h.configured d).remainingArguments = h.remainingArguments := rfl

@[simp] theorem configured_condition (arguments : List Argument) :
    (h.configured d).condition arguments = h.condition arguments := rfl

@[simp] theorem configured_warnings : (h.configured d).warnings = h.warnings := rfl

end Configured

variable {rules : LiteralRules} {h : Hydration} {d : Config} (hd : h.site.config.Extends d)
include hd

theorem eased_check (argument : String) (kind : SupplyKind) (supplied required : TypeRef) :
    Eased Stop.IsClash Eq
      (liftM ((h.engine.checkAssignable h.site.config h.isBatch kind supplied required).mapError
        (Mismatch.rejection argument)) : Checked Unit)
      (liftM ((h.engine.checkAssignable d h.isBatch kind supplied required).mapError
        (Mismatch.rejection argument)) : Checked Unit) :=
  ((Schema.eased_checkAssignable hd).mapError fun _ hm => hm.rejection argument).mapError
    fun _ => .rejected

theorem eased_resolveSupply (a : DeclaredArgument) (backingType : TypeRef) :
    Eased Stop.IsClash Eq (h.resolveSupply rules a backingType)
      ((h.configured d).resolveSupply rules a backingType) := by
  simp only [resolveSupply, configured_engine, configured_isBatch, configured_config,
    configured_field, configured_parentType, configured_sourceField?,
    configured_remainingArguments]
  cases a.supply with
  | sourceField path =>
    dsimp only
    cases h.site.sourceField? path with
    | none => exact .error _
    | some reached => exact (eased_check hd _ _ _ _).bind fun _ _ _ => .refl _
  | fieldArgument name =>
    dsimp only
    cases h.site.field.arguments.get? name with
    | none => exact .error _
    | some argument => exact (eased_check hd _ _ _ _).bind fun _ _ _ => .refl _
  | static value => exact .refl _
  | remainingArguments => exact .refl _

theorem eased_resolveArgument (a : DeclaredArgument) :
    Eased Stop.IsClash Eq (h.resolveArgument rules a)
      ((h.configured d).resolveArgument rules a) := by
  simp only [resolveArgument, configured_backing]
  cases h.backing.field.arguments.get? a.name with
  | none => exact .error _
  | some backing =>
    refine (eased_resolveSupply hd a backing.type).bind ?_
    rintro value _ rfl
    exact .refl _

theorem eased_resolveArguments :
    Eased Stop.IsClash Eq (h.resolveArguments rules) ((h.configured d).resolveArguments rules) := by
  simp only [resolveArguments, configured_checkArgumentSet, configured_declaration]
  refine (Eased.refl _).bind fun _ _ _ => ?_
  have harguments : Eased Stop.IsClash (List.Forall₂ Eq)
      (h.declaration.arguments.mapM (h.resolveArgument rules))
      (h.declaration.arguments.mapM ((h.configured d).resolveArgument rules)) := by
    refine .mapM (List.forall₂_same.mpr fun _ _ => rfl) ?_
    rintro a _ rfl
    exact eased_resolveArgument hd a
  rwa [List.forall₂_eq_eq_eq] at harguments

theorem configured_strategy (arguments : List Argument) :
    (h.configured d).strategy arguments = h.strategy arguments := by
  simp only [strategy, configured_config, ← hd.defaultBatchSize]
  rfl

theorem eased_instruction :
    Eased Stop.IsClash Eq (h.instruction rules) ((h.configured d).instruction rules) := by
  simp only [instruction, configured_config, ← hd.defaultTimeoutMillis, configured_condition,
    configured_strategy hd]
  refine (eased_resolveArguments hd).bind ?_
  rintro arguments _ rfl
  exact .refl _

end Hydration

namespace Site

variable {rules : LiteralRules} {s : Site} {d : Config}

theorem hydrations_configured :
    Corresponds Eq (List.Forall₂ fun h k => h.site = s ∧ k = h.configured d) s.hydrations
      (s.configured d).hydrations := by
  refine corresponds_hydrations rfl rfl (fun _ => rfl) (fun declaration => ?_) ?_
  · refine .refl (fun _ => rfl) ?_ _
    exact fun b => ⟨rfl, rfl⟩
  · rintro h k ⟨-, rfl⟩
    rfl

theorem eased_compile (hd : s.config.Extends d) :
    Eased Stop.IsClash Eq (s.compile rules) ((s.configured d).compile rules) := by
  have hhydrations : Eased Stop.IsClash (List.Forall₂ fun h k => h.site = s ∧ k = h.configured d)
      (liftM s.hydrations : Checked _) (liftM (s.configured d).hydrations : Checked _) := by
    refine (Eased.of_corresponds (P := fun _ => False) hydrations_configured).mapError nofun
  refine hhydrations.bind fun hs ks hhs => ?_
  have hinstructions : Eased Stop.IsClash (List.Forall₂ Eq) (hs.mapM (Hydration.instruction rules))
      (ks.mapM (Hydration.instruction rules)) := by
    refine .mapM hhs ?_
    rintro h _ ⟨rfl, rfl⟩
    exact Hydration.eased_instruction hd
  refine hinstructions.bind fun is js his => ?_
  rw [List.forall₂_eq_eq_eq] at his
  have hwarnings : ks.map Hydration.warnings = hs.map Hydration.warnings := by
    refine (map_eq_map hhs ?_).symm
    rintro h _ ⟨-, rfl⟩
    exact (h.configured_warnings d).symm
  rw [his, List.flatMap_def, List.flatMap_def, hwarnings]
  exact .refl _

end Site

end HydrationPlan
