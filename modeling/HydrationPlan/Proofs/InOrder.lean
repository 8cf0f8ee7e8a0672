import HydrationPlan.Proofs.Checked
import Mathlib.Data.List.Nodup
import Mathlib.Data.Prod.Basic

/-!
# Lists in the order of places

A list is described by what stands at which place, whatever the program does to make it. The places
of the members of a list are their indices; in a list of lists they are compared lexicographically.
-/

namespace HydrationPlan

/-- The list holds what stands at some place, in the order of the places. -/
def InOrder {ι α : Type} (before : ι → ι → Prop) (At : ι → α → Prop) (l : List α) : Prop :=
  ∃ places : List ι, places.Pairwise before ∧ (∀ i, i ∈ places ↔ ∃ a, At i a) ∧
    List.Forall₂ At places l

namespace InOrder

variable {ι α β : Type} {before : ι → ι → Prop} {At At' : ι → α → Prop} {l m : List α}

theorem congr (h : InOrder before At l) (hAt : ∀ i a, At i a ↔ At' i a) :
    InOrder before At' l := by
  have hEq : At = At' := funext fun i => funext fun a => propext (hAt i a)
  exact hEq ▸ h

theorem nil (hAt : ∀ i a, ¬ At i a) : InOrder before At [] :=
  ⟨[], .nil, fun i => ⟨nofun, fun ⟨a, ha⟩ => (hAt i a ha).elim⟩, .nil⟩

/-- Where a place holds one member at most, only one list is in order. -/
theorem unique [Std.Asymm before] (hAt : Relator.RightUnique At) (hl : InOrder before At l)
    (hm : InOrder before At m) : l = m := by
  obtain ⟨places, hsorted, hmem, hl⟩ := hl
  obtain ⟨places', hsorted', hmem', hm⟩ := hm
  have hperm : places.Perm places' := by
    rw [List.perm_ext_iff_of_nodup hsorted.nodup hsorted'.nodup]
    exact fun i => (hmem i).trans (hmem' i).symm
  have hplaces : places = places' :=
    hperm.eq_of_pairwise (fun i j _ _ hij hji => (Std.Asymm.asymm _ _ hij hji).elim) hsorted
      hsorted'
  subst hplaces
  exact hAt.forall₂ hl hm

theorem mem_iff (hAt : Relator.RightUnique At) (h : InOrder before At l) {a : α} :
    a ∈ l ↔ ∃ i, At i a := by
  obtain ⟨places, -, hmem, htold⟩ := h
  constructor
  · intro ha
    obtain ⟨i, -, hi⟩ := exists_of_mem_right htold ha
    exact ⟨i, hi⟩
  · rintro ⟨i, hi⟩
    obtain ⟨b, hb, hib⟩ := exists_of_mem_left htold ((hmem i).mpr ⟨a, hi⟩)
    exact hAt hib hi ▸ hb

theorem filterMap (f : α → Option β) (l : List α) :
    InOrder (· < ·) (fun (i : Nat) b => ∃ a, l[i]? = some a ∧ f a = some b) (l.filterMap f) := by
  induction l with
  | nil => exact .nil (by simp)
  | cons a l ih =>
    obtain ⟨places, hsorted, hmem, htold⟩ := ih
    have hrest : List.Forall₂ (fun i b => ∃ c, (a :: l)[i]? = some c ∧ f c = some b)
        (places.map Nat.succ) (l.filterMap f) :=
      List.forall₂_map_left_iff.mpr htold
    have hrestSorted : (places.map Nat.succ).Pairwise (· < ·) :=
      List.pairwise_map.mpr (hsorted.imp Nat.succ_lt_succ)
    have hrestMem : ∀ i, i + 1 ∈ places.map Nat.succ ↔
        ∃ b c, (a :: l)[i + 1]? = some c ∧ f c = some b := by
      simpa using hmem
    cases ha : f a with
    | none =>
      rw [List.filterMap_cons_none ha]
      refine ⟨places.map Nat.succ, hrestSorted, fun i => ?_, hrest⟩
      cases i with
      | zero => simp [ha]
      | succ i => exact hrestMem i
    | some b =>
      rw [List.filterMap_cons_some ha]
      refine ⟨0 :: places.map Nat.succ, List.pairwise_cons.mpr ⟨by simp, hrestSorted⟩, fun i => ?_,
        .cons ⟨a, rfl, ha⟩ hrest⟩
      cases i with
      | zero => simp [ha]
      | succ i => simpa using hrestMem i

/-- The places within the lists are compared only where the lists are the same. -/
theorem flatMap {f : β → List α} {At : β → ι → α → Prop} {l : List β}
    (h : ∀ b ∈ l, InOrder before (At b) (f b)) :
    InOrder (Prod.Lex (· < ·) before) (fun (p : Nat × ι) a => ∃ b, l[p.1]? = some b ∧ At b p.2 a)
      (l.flatMap f) := by
  induction l with
  | nil => exact .nil (by simp)
  | cons b l ih =>
    rw [List.forall_mem_cons] at h
    obtain ⟨inner, hinner, hinnerMem, hinnerTold⟩ := h.1
    obtain ⟨places, hsorted, hmem, htold⟩ := ih h.2
    refine ⟨inner.map (Prod.mk 0) ++ places.map (Prod.map Nat.succ id), ?_, ?_, ?_⟩
    · rw [List.pairwise_append, List.pairwise_map, List.pairwise_map]
      refine ⟨hinner.imp (Prod.Lex.right 0), hsorted.imp ?_, ?_⟩
      · rintro _ _ (⟨_, _, h⟩ | ⟨_, h⟩)
        · exact .left _ _ (Nat.succ_lt_succ h)
        · exact .right _ h
      · simp only [List.mem_map]
        rintro _ ⟨_, -, rfl⟩ _ ⟨p, -, rfl⟩
        exact .left _ _ p.1.succ_pos
    · rintro ⟨i, j⟩
      cases i with
      | zero => simpa using hinnerMem j
      | succ i => simpa using hmem (i, j)
    · refine List.rel_append (List.forall₂_map_left_iff.mpr ?_) (List.forall₂_map_left_iff.mpr ?_)
      · exact hinnerTold.imp fun _ _ ha => ⟨b, rfl, ha⟩
      · exact htold

end InOrder

end HydrationPlan
