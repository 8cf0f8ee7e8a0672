import HydrationPlan.Proofs.Path
import Mathlib.Data.List.Sort

/-!
# What pruning keeps

Pruning keeps the maximal paths of a list, each where it first occurs. This determines the result:
a pruned list is left as it is, and lists of the same paths differ in the order of what is kept
alone.
-/

namespace HydrationPlan.Path

variable {p q : Path} {paths kept others : List Path}

/-- The path is a proper part of the other one, from its beginning. -/
def IsProperPrefix (p q : Path) : Prop := p.segments <+: q.segments ∧ p ≠ q

/-- The first occurrence of the one path is in front of that of the other. -/
def Precedes (paths : List Path) (p q : Path) : Prop := paths.idxOf p < paths.idxOf q

instance : Std.Irrefl (Precedes paths) := ⟨fun _ => Nat.lt_irrefl _⟩

instance : Std.Antisymm (Precedes paths) := ⟨fun _ _ h h' => absurd h' (Nat.lt_asymm h)⟩

/-- What is kept are the paths that no other path of the list extends, by their first occurrence. No
path precedes itself, so that each of them is kept once. -/
structure Maximal (paths kept : List Path) : Prop where
  mem_iff : ∀ p, p ∈ kept ↔ p ∈ paths ∧ ∀ q ∈ paths, ¬ p.IsProperPrefix q
  ordered : kept.Pairwise (Precedes paths)

theorem Maximal.unique (h : Maximal paths kept) (h' : Maximal paths others) : kept = others :=
  h.ordered.eq_of_mem_iff h'.ordered fun p => (h.mem_iff p).trans (h'.mem_iff p).symm

theorem precedes_cons_of_ne {r : Path} (hp : p ≠ r) (hq : q ≠ r) (h : Precedes paths p q) :
    Precedes (r :: paths) p q := by
  rw [Precedes, List.idxOf_cons_ne _ hp.symm, List.idxOf_cons_ne _ hq.symm]
  exact Nat.succ_lt_succ h

theorem precedes_cons_self (hq : q ≠ p) : Precedes (p :: paths) p q := by
  rw [Precedes, List.idxOf_cons_self, List.idxOf_cons_ne _ hq.symm]
  exact Nat.succ_pos _

theorem pairwise_distinct (paths : List Path) : (distinct paths).Pairwise (Precedes paths) := by
  induction paths with
  | nil => exact .nil
  | cons r rest ih =>
    have hne : ∀ p ∈ (distinct rest).filter (· ≠ r), p ≠ r := fun p hp =>
      of_decide_eq_true (List.mem_filter.mp hp).2
    rw [distinct, List.pairwise_cons]
    refine ⟨fun p hp => precedes_cons_self (hne p hp), ?_⟩
    exact (ih.filter _).imp_of_mem fun hp hq => precedes_cons_of_ne (hne _ hp) (hne _ hq)

theorem maximal_prune (paths : List Path) : Maximal paths (prune paths) where
  mem_iff p := by simp only [mem_prune_iff, IsProperPrefix, not_and, not_not]
  ordered := (pairwise_distinct paths).filter _

theorem distinct_eq_self (h : paths.Nodup) : distinct paths = paths := by
  induction paths with
  | nil => rfl
  | cons p rest ih =>
    obtain ⟨hp, hrest⟩ := List.nodup_cons.mp h
    rw [distinct, ih hrest, List.filter_eq_self.mpr]
    intro q hq
    exact decide_eq_true fun he => hp (he ▸ hq)

theorem isProperPrefix_of_prune (hp : p ∈ prune paths) (hq : q ∈ prune paths) :
    ¬ p.IsProperPrefix q :=
  ((maximal_prune paths).mem_iff p |>.mp hp).2 q ((maximal_prune paths).mem_iff q |>.mp hq).1

theorem prune_prune (paths : List Path) : prune (prune paths) = prune paths := by
  rw [prune, distinct_eq_self (nodup_prune paths)]
  refine List.filter_eq_self.mpr fun p hp => ?_
  rw [Bool.not_eq_true', List.any_eq_false]
  exact fun q hq h => isProperPrefix_of_prune hp hq (isStrictPrefixOf_iff.mp h)

/-- What is kept hangs on which paths are given and not on their order or number. -/
theorem perm_prune (h : ∀ p, p ∈ others ↔ p ∈ paths) : (prune others).Perm (prune paths) := by
  rw [List.perm_ext_iff_of_nodup (nodup_prune others) (nodup_prune paths)]
  simp only [mem_prune_iff, h, implies_true]

/-- Pruning gives the maximal paths of a list and nothing else. Every path of the list is a part of
one that is kept, and none that is kept is a proper part of another. -/
theorem prune_eq_iff_maximal (paths : List Path) :
    (∀ kept, prune paths = kept ↔ Maximal paths kept) ∧
      (∀ p ∈ paths, ∃ q ∈ prune paths, p.segments <+: q.segments) ∧
      (∀ p ∈ prune paths, ∀ q ∈ prune paths, ¬ p.IsProperPrefix q) ∧
      prune (prune paths) = prune paths ∧
      ∀ others, (∀ p, p ∈ others ↔ p ∈ paths) → (prune others).Perm (prune paths) := by
  refine ⟨fun kept => ⟨?_, (maximal_prune paths).unique⟩, fun p hp => exists_prefix_of_prune hp,
    fun p hp q hq => isProperPrefix_of_prune hp hq, prune_prune paths, fun others h => perm_prune h⟩
  rintro rfl
  exact maximal_prune paths

/-- A name that begins with another one is another name. -/
example :
    (prune [⟨["own"], by simp⟩, ⟨["owner"], by simp⟩, ⟨["own"], by simp⟩,
      ⟨["owner", "id"], by simp⟩]).map segments = [["own"], ["owner", "id"]] := by decide

end HydrationPlan.Path
