import HydrationPlan.Hydration.Projection
import Mathlib.Algebra.Order.BigOperators.Group.List
import Mathlib.Algebra.Order.Group.Nat
import Mathlib.Data.List.Nodup

/-!
# Prefixes of paths and pruning

A path is seen as its list of segments, ordered by being a prefix. Pruning keeps the maximal paths
of a list. The list is finite, so that every path of it lies below one that is kept.
-/

namespace HydrationPlan.Path

variable {p q : Path} {paths : List Path}

theorem eq_of_segments (h : p.segments = q.segments) : p = q := by
  cases p
  cases q
  cases h
  rfl

theorem isPrefixOf_iff : p.isPrefixOf q = true ↔ p.segments <+: q.segments :=
  List.isPrefixOf_iff_prefix

theorem isStrictPrefixOf_iff :
    p.isStrictPrefixOf q = true ↔ p.segments <+: q.segments ∧ p ≠ q := by
  rw [isStrictPrefixOf, Bool.and_eq_true, decide_eq_true_eq, isPrefixOf_iff]
  constructor
  · rintro ⟨hlength, hsub⟩
    refine ⟨hsub, ?_⟩
    rintro rfl
    exact Nat.lt_irrefl _ hlength
  · rintro ⟨hsub, hne⟩
    refine ⟨Nat.lt_of_le_of_ne hsub.length_le fun hlength => hne ?_, hsub⟩
    exact eq_of_segments (hsub.eq_of_length hlength)

theorem mem_distinct : p ∈ distinct paths ↔ p ∈ paths := by
  induction paths with
  | nil => exact Iff.rfl
  | cons q rest ih =>
    simp only [distinct, List.mem_cons, List.mem_filter, ih, decide_eq_true_eq]
    by_cases hp : p = q <;> simp [hp]

theorem nodup_distinct (paths : List Path) : (distinct paths).Nodup := by
  induction paths with
  | nil => exact List.nodup_nil
  | cons q rest ih =>
    rw [distinct, List.nodup_cons]
    refine ⟨fun hq => ?_, ih.filter _⟩
    simpa using (List.mem_filter.mp hq).2

/-- A path is kept if no other path of the list extends it. -/
theorem mem_prune_iff :
    p ∈ prune paths ↔ p ∈ paths ∧ ∀ q ∈ paths, p.segments <+: q.segments → p = q := by
  simp only [prune, List.mem_filter, mem_distinct, Bool.not_eq_true', List.any_eq_false,
    isStrictPrefixOf_iff, not_and, not_not]

theorem nodup_prune (paths : List Path) : (prune paths).Nodup :=
  (nodup_distinct paths).filter _

/-- Going from a path to one that extends it comes to an end at a path that is kept. -/
theorem exists_prefix_of_prune (hp : p ∈ paths) :
    ∃ q ∈ prune paths, p.segments <+: q.segments := by
  obtain ⟨bound, hbound⟩ : ∃ bound, ∀ q ∈ paths, q.length ≤ bound :=
    ⟨(paths.map length).sum, fun q hq => List.le_sum_of_mem (List.mem_map_of_mem hq)⟩
  -- The induction is on how far the length of `p` is from the bound.
  induction hn : bound - p.length using Nat.strongRecOn generalizing p with
  | _ n ih =>
    by_cases hmax : ∀ q ∈ paths, p.segments <+: q.segments → p = q
    · exact ⟨p, mem_prune_iff.mpr ⟨hp, hmax⟩, List.prefix_rfl⟩
    · push Not at hmax
      obtain ⟨q, hq, hsub, hne⟩ := hmax
      have hlength : p.length < q.length := by
        refine Nat.lt_of_le_of_ne hsub.length_le fun h => hne ?_
        exact eq_of_segments (hsub.eq_of_length h)
      have hle := hbound q hq
      obtain ⟨r, hr, hqr⟩ := ih (bound - q.length) (by omega) hq rfl
      exact ⟨r, hr, hsub.trans hqr⟩

end HydrationPlan.Path
