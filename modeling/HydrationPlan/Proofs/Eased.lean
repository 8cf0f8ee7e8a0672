import HydrationPlan.Proofs.Correspondence
import HydrationPlan.Proofs.Walk

/-!
# A run with fewer failures

A sequence of checks is eased if some of its failures no longer occur. Where the first run passes,
or fails for another reason, the second run ends alike; where it fails for one of these reasons,
nothing is said of the second.
-/

namespace HydrationPlan

variable {ε δ α β γ κ : Type}

/-- The computations end alike, unless the first fails for a reason in `P`. -/
inductive Eased (P : ε → Prop) (R : α → β → Prop) : Except ε α → Except ε β → Prop
  | ok {a : α} {b : β} (h : R a b) : Eased P R (.ok a) (.ok b)
  | error (e : ε) : Eased P R (.error e) (.error e)
  | lifted {e : ε} (h : P e) (y : Except ε β) : Eased P R (.error e) y

namespace Eased

variable {P : ε → Prop} {R : α → β → Prop} {S : γ → κ → Prop}
variable {x : Except ε α} {y : Except ε β}

theorem refl (x : Except ε α) : Eased P Eq x x := by
  cases x with
  | error e => exact .error e
  | ok a => exact .ok rfl

/-- Where all failures may no longer occur, only what passes has to be looked at. -/
theorem of_ok (h : ∀ a, x = .ok a → ∃ b, y = .ok b ∧ R a b) : Eased (fun _ => True) R x y := by
  cases x with
  | error e => exact .lifted trivial y
  | ok a =>
    obtain ⟨b, rfl, hab⟩ := h a rfl
    exact .ok hab

theorem of_corresponds (h : Corresponds Eq R x y) : Eased P R x y := by
  cases h with
  | ok hab => exact .ok hab
  | error he => exact he ▸ .error _

theorem bind {f : α → Except ε γ} {g : β → Except ε κ} (h : Eased P R x y)
    (hf : ∀ a b, R a b → Eased P S (f a) (g b)) : Eased P S (x >>= f) (y >>= g) := by
  cases h with
  | ok hab => exact hf _ _ hab
  | error e => exact .error e
  | lifted he y => exact .lifted he _

theorem mapError {Q : δ → Prop} {f : ε → δ} (h : Eased P R x y) (hf : ∀ e, P e → Q (f e)) :
    Eased Q R (x.mapError f) (y.mapError f) := by
  cases h with
  | ok hab => exact .ok hab
  | error e => exact .error (f e)
  | lifted he y => exact .lifted (hf _ he) _

theorem mapM {T : γ → κ → Prop} {f : γ → Except ε α} {g : κ → Except ε β} {l : List γ}
    {m : List κ} (h : List.Forall₂ T l m) (hf : ∀ a b, T a b → Eased P R (f a) (g b)) :
    Eased P (List.Forall₂ R) (l.mapM f) (m.mapM g) := by
  induction h with
  | nil =>
    rw [List.mapM_nil, List.mapM_nil]
    exact .ok .nil
  | cons hab _ ih =>
    rw [List.mapM_cons, List.mapM_cons]
    refine (hf _ _ hab).bind fun a b hR => ?_
    exact ih.bind fun as bs hRs => .ok (.cons hR hRs)

theorem exists_ok (h : Eased P R x y) {a : α} (hx : x = .ok a) : ∃ b, y = .ok b ∧ R a b := by
  subst hx
  cases h with
  | ok hab => exact ⟨_, rfl, hab⟩

theorem exists_of_ne {x y : Except ε α} (h : Eased P Eq x y) (hne : y ≠ x) :
    ∃ e, P e ∧ x = .error e := by
  cases h with
  | ok hab => exact absurd (hab ▸ rfl) hne
  | error e => exact absurd rfl hne
  | lifted he y => exact ⟨_, he, rfl⟩

end Eased

/-- The second list lacks some of the faults of the first. -/
inductive Thinned (P : ε → Prop) : List (Except ε α) → List (Except ε α) → Prop
  | nil : Thinned P [] []
  | cons (n : Except ε α) {l m : List (Except ε α)} (h : Thinned P l m) :
      Thinned P (n :: l) (n :: m)
  | drop {e : ε} (he : P e) {l m : List (Except ε α)} (h : Thinned P l m) :
      Thinned P (.error e :: l) m

namespace Thinned

variable {P : ε → Prop} {l m l' m' : List (Except ε α)}

theorem refl (l : List (Except ε α)) : Thinned P l l := by
  induction l with
  | nil => exact .nil
  | cons n _ ih => exact .cons n ih

theorem append (h : Thinned P l m) (h' : Thinned P l' m') : Thinned P (l ++ l') (m ++ m') := by
  induction h with
  | nil => exact h'
  | cons n _ ih => exact .cons n ih
  | drop he _ ih => exact .drop he ih

theorem filterMap {f g : γ → Option (Except ε α)}
    (h : ∀ a, f a = g a ∨ ∃ e, P e ∧ f a = some (.error e) ∧ g a = none) (l : List γ) :
    Thinned P (l.filterMap f) (l.filterMap g) := by
  induction l with
  | nil => exact .nil
  | cons a l ih =>
    rw [List.filterMap_cons, List.filterMap_cons]
    rcases h a with ha | ⟨e, he, hf, hg⟩
    · rw [ha]
      cases g a with
      | none => exact ih
      | some n => exact .cons n ih
    · rw [hf, hg]
      exact .drop he ih

variable [DecidableEq κ] {key : α → κ} {next next' : α → List (Except ε α)}

/-- Where some faults are no longer listed, a walk finds the same fault, unless it was one of
them that it found. -/
theorem fault_run (hnext : ∀ a, Thinned P (next a) (next' a)) {fresh : List κ}
    {pending pending' : List (Except ε α)} (h : Thinned P pending pending') :
    (Walk.run key next fresh pending).fault = (Walk.run key next' fresh pending').fault ∨
      ∃ e, P e ∧ (Walk.run key next fresh pending).fault = some e := by
  induction fresh, pending using Walk.run.induct key next generalizing pending' with
  | case1 fresh =>
    cases h
    exact .inl (by rw [Walk.run_nil, Walk.run_nil])
  | case2 fresh e rest =>
    rw [Walk.run_error]
    cases h with
    | cons _ _ => exact .inl (by rw [Walk.run_error])
    | drop he _ => exact .inr ⟨e, he, rfl⟩
  | case3 fresh a rest hk _ ih =>
    cases h with
    | cons _ hrest =>
      rw [Walk.run_fresh hk, Walk.run_fresh hk]
      exact ih ((hnext a).append hrest)
  | case4 fresh a rest hk ih =>
    cases h with
    | cons _ hrest =>
      rw [Walk.run_stale hk, Walk.run_stale hk]
      exact ih hrest

end Thinned

end HydrationPlan
