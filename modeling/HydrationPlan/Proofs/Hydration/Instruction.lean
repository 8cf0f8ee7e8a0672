import HydrationPlan.Plan.Compile
import HydrationPlan.Proofs.Hydration.ArgumentList

/-!
# What an instruction holds

Every part of an instruction is the result of one check on the hydration that it stands for.
-/

namespace HydrationPlan

theorem Instruction.isBatch_of_matching? {i : Instruction} {m : Matching}
    (h : i.strategy.matching? = some m) : i.isBatch = true := by
  rw [isBatch]
  cases hs : i.strategy with
  | single fanOut =>
    rw [hs] at h
    cases h
  | batch matching size => rfl

namespace Hydration

variable {rules : LiteralRules} {h : Hydration} {i : Instruction}

/-- All checks on the hydration pass, and the instruction records what they gave. -/
structure Yields (rules : LiteralRules) (h : Hydration) (i : Instruction) : Prop where
  arguments : h.resolveArguments rules = .ok i.arguments
  condition : h.condition i.arguments = .ok i.condition
  strategy : h.strategy i.arguments = .ok i.strategy
  output : h.site.gateway.checkOutput h.site.field.type h.backing.field.type = .ok ()
  location : i.location = h.site.coordinates
  target : i.target = h.target
  sourceFields : i.sourceFields =
    h.engine.sourcePaths i.arguments i.strategy.matching? (i.condition.map (·.path))
  timeoutMillis : i.timeoutMillis =
    (h.declaration.timeoutMillis <|> h.site.config.defaultTimeoutMillis)
  virtualTypes : i.virtualTypes = h.virtualTypes?

theorem instruction_eq_ok_iff : h.instruction rules = .ok i ↔ h.Yields rules i := by
  simp only [instruction, bind_eq_ok_iff, liftM_eq_ok_iff, pure_eq_ok_iff]
  constructor
  · rintro ⟨args, hargs, condition, hcondition, strategy, hstrategy, _, houtput, rfl⟩
    exact ⟨hargs, hcondition, hstrategy, houtput, rfl, rfl, rfl, rfl, rfl⟩
  · rintro ⟨hargs, hcondition, hstrategy, houtput, hlocation, htarget, hfields, htime, htypes⟩
    refine ⟨_, hargs, _, hcondition, _, hstrategy, (), houtput, ?_⟩
    rw [← hlocation, ← htarget, ← hfields, ← htime, ← htypes]

theorem gapless_instruction (ho : h.engine.ObjectsKeyed) : Gapless (h.instruction rules) := by
  refine (gapless_resolveArguments ho).bind fun args _ => ?_
  refine (gapless_liftM _).bind fun condition _ => ?_
  refine (gapless_liftM _).bind fun strategy _ => ?_
  exact (gapless_liftM _).bind fun _ _ => gapless_pure _

theorem resolve_eq_index_iff {d : Declaration} {site : Site} {args : List Argument} {m : Matching}
    (hm : Matching.resolve site d args = .ok m) : m = .index ↔ d.indexed = true := by
  unfold Matching.resolve at hm
  split at hm
  · rename_i hindexed
    cases hm
    simp [hindexed]
  · rename_i hindexed
    have hne : m ≠ .index := by
      rintro rfl
      split at hm
      · cases hm
      · split at hm
        · obtain ⟨ids, -, hids⟩ := map_eq_ok_iff.mp hm
          cases hids
        · split at hm <;> cases hm
    simp [hne, hindexed]

namespace Yields

variable (hy : h.Yields rules i)
include hy

theorem isBatch_eq : i.isBatch = h.isBatch := by
  have hs := hy.strategy
  unfold Hydration.strategy at hs
  split at hs
  · rename_i hb
    obtain ⟨m, -, hm⟩ := map_eq_ok_iff.mp hs
    rw [Instruction.isBatch, ← hm, hb]
    rfl
  · rename_i hb
    obtain ⟨f, -, hf⟩ := map_eq_ok_iff.mp hs
    rw [Instruction.isBatch, ← hf, Bool.eq_false_iff.mpr hb]
    rfl

theorem condition_isSome_eq : i.condition.isSome = h.declaration.condition.isSome := by
  have hc := hy.condition
  unfold Hydration.condition at hc
  split at hc
  · rename_i hd
    rw [hd, ← Except.ok.inj hc]
    rfl
  · rename_i hd
    obtain ⟨c, -, hc⟩ := map_eq_ok_iff.mp hc
    rw [hd, ← hc]
    rfl

theorem exists_matching (hb : h.isBatch = true) :
    ∃ m, Matching.resolve h.site h.declaration i.arguments = .ok m ∧
      i.strategy.matching? = some m := by
  have hs := hy.strategy
  rw [Hydration.strategy, if_pos hb] at hs
  obtain ⟨m, hm, hi⟩ := map_eq_ok_iff.mp hs
  refine ⟨m, hm, ?_⟩
  rw [← hi]
  rfl

theorem matching_index_iff (hb : i.isBatch = true) :
    i.strategy.matching? = some .index ↔ h.declaration.indexed = true := by
  rw [hy.isBatch_eq] at hb
  obtain ⟨m, hm, hi⟩ := hy.exists_matching hb
  rw [hi, Option.some.injEq]
  exact resolve_eq_index_iff hm

end Yields

end Hydration

end HydrationPlan
