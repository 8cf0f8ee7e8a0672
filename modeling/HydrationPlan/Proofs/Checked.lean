import HydrationPlan.Hydration.Argument
import Mathlib.Data.List.Forall2

/-!
# Checks one after another

A sequence of checks passes if each of them does, and then each has a result. The outcome that no
check gives, a gap in an input shape, can only come from where it is raised.
-/

namespace HydrationPlan

section Aligned

variable {α β γ : Type} {R : α → β → Prop} {l : List α} {r : List β}

theorem map_eq_of_forall₂ {f : α → γ} {g : β → γ} (h : List.Forall₂ (fun a b => g b = f a) l r) :
    r.map g = l.map f := by
  induction h with
  | nil => rfl
  | cons hab _ ih => rw [List.map_cons, List.map_cons, hab, ih]

theorem filterMap_eq_of_forall₂ {f : α → Option γ} {g : β → Option γ}
    (h : List.Forall₂ (fun a b => g b = f a) l r) : r.filterMap g = l.filterMap f := by
  induction h with
  | nil => rfl
  | cons hab _ ih => rw [List.filterMap_cons, List.filterMap_cons, hab, ih]

theorem exists_of_mem_right (h : List.Forall₂ R l r) {b : β} (hb : b ∈ r) : ∃ a ∈ l, R a b := by
  induction h with
  | nil => cases hb
  | @cons a _ _ _ hab _ ih =>
    rcases List.mem_cons.mp hb with rfl | hb
    · exact ⟨a, List.mem_cons_self, hab⟩
    · obtain ⟨c, hc, hcb⟩ := ih hb
      exact ⟨c, List.mem_cons_of_mem a hc, hcb⟩

theorem exists_of_mem_left (h : List.Forall₂ R l r) {a : α} (ha : a ∈ l) : ∃ b ∈ r, R a b := by
  obtain ⟨b, hb, hab⟩ := exists_of_mem_right h.flip ha
  exact ⟨b, hb, hab⟩

theorem forall₂_imp_of_mem {S : α → β → Prop} (himp : ∀ a ∈ l, ∀ b, R a b → S a b)
    (h : List.Forall₂ R l r) : List.Forall₂ S l r := by
  induction h with
  | nil => exact .nil
  | cons hab _ ih =>
    rw [List.forall_mem_cons] at himp
    exact .cons (himp.1 _ hab) (ih himp.2)

theorem countP_eq_of_forall₂ {p : α → Bool} {q : β → Bool}
    (h : List.Forall₂ (fun a b => q b = p a) l r) : r.countP q = l.countP p := by
  have hmap := congrArg (List.countP id) (map_eq_of_forall₂ h)
  rwa [List.countP_map, List.countP_map, Function.id_comp, Function.id_comp] at hmap

theorem exists_forall₂_iff : (∃ r, List.Forall₂ R l r) ↔ ∀ a ∈ l, ∃ b, R a b := by
  constructor
  · rintro ⟨r, h⟩ a ha
    obtain ⟨b, -, hab⟩ := exists_of_mem_left h ha
    exact ⟨b, hab⟩
  · intro h
    induction l with
    | nil => exact ⟨[], .nil⟩
    | cons a l ih =>
      rw [List.forall_mem_cons] at h
      obtain ⟨⟨b, hab⟩, hl⟩ := h
      obtain ⟨r, hr⟩ := ih hl
      exact ⟨b :: r, .cons hab hr⟩

theorem forall₂_comp {S : β → γ → Prop} {m : List β} {q : List γ} (hlm : List.Forall₂ R l m)
    (hmq : List.Forall₂ S m q) : List.Forall₂ (fun a c => ∃ b, R a b ∧ S b c) l q := by
  induction hlm generalizing q with
  | nil =>
    cases hmq
    exact .nil
  | cons hab _ ih =>
    cases hmq with
    | cons hbc hrest => exact .cons ⟨_, hab, hbc⟩ (ih hrest)

theorem map_eq_zipWith {δ : Type} {S : β → γ → Prop} {m : List β} {q : List γ} {f : β → δ}
    {g : α → γ → δ} (h : ∀ a b c, R a b → S b c → f b = g a c) (hlm : List.Forall₂ R l m)
    (hmq : List.Forall₂ S m q) : m.map f = List.zipWith g l q := by
  induction hlm generalizing q with
  | nil => rfl
  | cons hab _ ih =>
    cases hmq with
    | cons hbc hrest => rw [List.map_cons, List.zipWith_cons_cons, h _ _ _ hab hbc, ih hrest]

/-- A chain of two alignments is one alignment with pairs, in which lists that the middle gives rise
to are kept apart. -/
theorem exists_parts_iff {δ : Type} {S : β → γ → Prop} {w : β → List δ} {q : List γ}
    {ws : List δ} :
    (∃ m, List.Forall₂ R l m ∧ List.Forall₂ S m q ∧ m.flatMap w = ws) ↔
      ∃ parts : List (γ × List δ),
        List.Forall₂ (fun a p => ∃ b, R a b ∧ S b p.1 ∧ w b = p.2) l parts ∧
        parts.map Prod.fst = q ∧ parts.flatMap Prod.snd = ws := by
  constructor
  · rintro ⟨m, hlm, hmq, rfl⟩
    induction hlm generalizing q with
    | nil =>
      cases hmq
      exact ⟨[], .nil, rfl, rfl⟩
    | @cons a b _ _ hab _ ih =>
      cases hmq with
      | @cons _ c _ _ hbc hmq =>
        obtain ⟨parts, hparts, hfst, hsnd⟩ := ih hmq
        refine ⟨(c, w b) :: parts, .cons ⟨b, hab, hbc, rfl⟩ hparts, ?_, ?_⟩
        · rw [List.map_cons, hfst]
        · rw [List.flatMap_cons, List.flatMap_cons, hsnd]
  · rintro ⟨parts, hparts, rfl, rfl⟩
    induction hparts with
    | nil => exact ⟨[], .nil, .nil, rfl⟩
    | @cons _ p _ _ hap _ ih =>
      obtain ⟨b, hab, hbp, hw⟩ := hap
      obtain ⟨m, hlm, hmq, hws⟩ := ih
      refine ⟨b :: m, .cons hab hlm, .cons hbp hmq, ?_⟩
      rw [List.flatMap_cons, List.flatMap_cons, hws, hw]

end Aligned

section Sequence

variable {ε α β : Type}

theorem bind_eq_ok_iff {x : Except ε α} {f : α → Except ε β} {b : β} :
    (x >>= f) = .ok b ↔ ∃ a, x = .ok a ∧ f a = .ok b := by
  cases x with
  | error e => simp [bind, Except.bind]
  | ok a => simp [bind, Except.bind]

theorem pure_eq_ok_iff {a b : α} : (pure a : Except ε α) = .ok b ↔ a = b := by
  simp [pure, Except.pure]

theorem throw_ne_ok {e : ε} {a : α} : (throw e : Except ε α) ≠ .ok a := nofun

/-- A check that ends the sequence if the condition holds. -/
theorem guard_eq_ok_iff {p : Prop} [Decidable p] {e : ε} {x : Except ε β} {b : β} :
    (if p then ((throw e : Except ε α) >>= fun _ => x) else x) = .ok b ↔ ¬ p ∧ x = .ok b := by
  split
  · rename_i hp
    exact ⟨nofun, fun h => absurd hp h.1⟩
  · rename_i hp
    exact ⟨fun h => ⟨hp, h⟩, And.right⟩

theorem map_eq_ok_iff {x : Except ε α} {f : α → β} {b : β} :
    x.map f = .ok b ↔ ∃ a, x = .ok a ∧ f a = b := by
  cases x with
  | error e => simp [Except.map]
  | ok a => simp [Except.map]

theorem mapError_eq_ok_iff {δ : Type} {x : Except ε α} {f : ε → δ} {a : α} :
    x.mapError f = .ok a ↔ x = .ok a := by
  cases x with
  | error e => simp [Except.mapError]
  | ok b => simp [Except.mapError]

theorem toOption_eq_some_iff {x : Except ε α} {a : α} : x.toOption = some a ↔ x = .ok a := by
  cases x with
  | error e => simp [Except.toOption]
  | ok b => simp [Except.toOption]

theorem mapM_eq_ok_iff {f : α → Except ε β} {l : List α} {r : List β} :
    l.mapM f = .ok r ↔ List.Forall₂ (fun a b => f a = .ok b) l r := by
  induction l generalizing r with
  | nil =>
    rw [List.mapM_nil, pure_eq_ok_iff, List.forall₂_nil_left_iff]
    exact eq_comm
  | cons a l ih =>
    simp only [List.mapM_cons, bind_eq_ok_iff, pure_eq_ok_iff, ih]
    constructor
    · rintro ⟨b, hb, bs, hbs, rfl⟩
      exact .cons hb hbs
    · rintro (_ | ⟨hb, hbs⟩)
      exact ⟨_, hb, _, hbs, rfl⟩

theorem map_eq_error_iff {x : Except ε α} {f : α → β} {e : ε} :
    x.map f = .error e ↔ x = .error e := by
  cases x with
  | error d => simp [Except.map]
  | ok a => simp [Except.map]

theorem exists_of_mapM_eq_error {f : α → Except ε β} {l : List α} {e : ε}
    (h : l.mapM f = .error e) : ∃ a ∈ l, f a = .error e := by
  induction l with
  | nil => cases h
  | cons a l ih =>
    rw [List.mapM_cons] at h
    cases ha : f a with
    | error d =>
      rw [ha] at h
      cases h
      exact ⟨a, List.mem_cons_self, ha⟩
    | ok b =>
      cases hl : l.mapM f with
      | error d =>
        rw [ha, hl] at h
        cases h
        obtain ⟨c, hc, hce⟩ := ih hl
        exact ⟨c, List.mem_cons_of_mem a hc, hce⟩
      | ok bs =>
        rw [ha, hl] at h
        cases h

end Sequence

section Lifted

variable {α β : Type}

theorem liftM_eq_ok_iff {x : Except Rejection α} {a : α} :
    (liftM x : Checked α) = .ok a ↔ x = .ok a :=
  mapError_eq_ok_iff

/-- The outcome is a result or a rejection. -/
def Gapless (x : Checked α) : Prop := ∀ g, x ≠ .error (.gap g)

theorem gapless_pure (a : α) : Gapless (pure a : Checked α) := nofun

theorem gapless_rejected (cause : Rejection) :
    Gapless (throw (.rejected cause) : Checked α) := nofun

theorem gapless_liftM (x : Except Rejection α) : Gapless (liftM x : Checked α) := by
  intro g h
  cases x with
  | error e => cases h
  | ok a => cases h

theorem Gapless.bind {x : Checked α} {f : α → Checked β} (hx : Gapless x)
    (hf : ∀ a, x = .ok a → Gapless (f a)) : Gapless (x >>= f) := by
  cases x with
  | error e =>
    intro g h
    cases h
    exact hx g rfl
  | ok a => exact hf a rfl

theorem gapless_mapM {f : α → Checked β} {l : List α} (h : ∀ a ∈ l, Gapless (f a)) :
    Gapless (l.mapM f) := by
  induction l with
  | nil => exact gapless_pure []
  | cons a l ih =>
    rw [List.mapM_cons]
    refine (h a List.mem_cons_self).bind fun b _ => ?_
    refine (ih fun c hc => h c (List.mem_cons_of_mem a hc)).bind fun bs _ => ?_
    exact gapless_pure (b :: bs)

end Lifted

end HydrationPlan
