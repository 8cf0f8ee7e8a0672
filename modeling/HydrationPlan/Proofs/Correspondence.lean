import HydrationPlan.Proofs.Checked
import HydrationPlan.Proofs.Table
import Mathlib.Data.Option.Basic

/-!
# Two runs side by side

Two sequences of checks correspond if they fail for corresponding reasons or both pass with
corresponding results. Nothing is said here about what is checked.
-/

namespace HydrationPlan

section Options

variable {α β γ δ : Type} {R : α → β → Prop} {S : γ → δ → Prop} {x : Option α} {y : Option β}

theorem rel_bind {f : α → Option γ} {g : β → Option δ} (h : Option.Rel R x y)
    (hf : ∀ a b, R a b → Option.Rel S (f a) (g b)) : Option.Rel S (x.bind f) (y.bind g) := by
  cases h with
  | none => exact .none
  | some hab => exact hf _ _ hab

theorem rel_map {f : α → γ} {g : β → δ} (h : Option.Rel R x y)
    (hf : ∀ a b, R a b → S (f a) (g b)) : Option.Rel S (x.map f) (y.map g) := by
  cases h with
  | none => exact .none
  | some hab => exact .some (hf _ _ hab)

theorem rel_imp {T : α → β → Prop} (h : Option.Rel R x y) (hT : ∀ a b, R a b → T a b) :
    Option.Rel T x y := by
  cases h with
  | none => exact .none
  | some hab => exact .some (hT _ _ hab)

theorem bind_eq_of_rel {f : α → Option γ} {g : β → Option γ} (h : Option.Rel R x y)
    (hf : ∀ a b, R a b → f a = g b) : x.bind f = y.bind g := by
  cases h with
  | none => rfl
  | some hab => exact hf _ _ hab

theorem isSome_eq_of_rel (h : Option.Rel R x y) : x.isSome = y.isSome := by
  cases h <;> rfl

end Options

section Aligned

variable {α β γ : Type} {R : α → β → Prop} {l : List α} {m : List β}

theorem filterMap_eq_filterMap {f : α → Option γ} {g : β → Option γ} (h : List.Forall₂ R l m)
    (hf : ∀ a b, R a b → f a = g b) : l.filterMap f = m.filterMap g := by
  induction h with
  | nil => rfl
  | cons hab _ ih => rw [List.filterMap_cons, List.filterMap_cons, hf _ _ hab, ih]

theorem map_eq_map {f : α → γ} {g : β → γ} (h : List.Forall₂ R l m)
    (hf : ∀ a b, R a b → f a = g b) : l.map f = m.map g := by
  induction h with
  | nil => rfl
  | cons hab _ ih => rw [List.map_cons, List.map_cons, hf _ _ hab, ih]

end Aligned

/-- The same keys in the same order, with related values. -/
def Table.Aligned {κ α β : Type} (R : α → β → Prop) (t : Table κ α) (u : Table κ β) : Prop :=
  List.Forall₂ (fun e d => e.1 = d.1 ∧ R e.2 d.2) t.entries u.entries

namespace Table.Aligned

variable {κ α β : Type} {R : α → β → Prop} {t : Table κ α} {u : Table κ β}

theorem refl {R : α → α → Prop} (hR : ∀ v, R v v) (t : Table κ α) : Aligned R t t :=
  List.forall₂_same.mpr fun e _ => ⟨rfl, hR e.2⟩

theorem values (h : Aligned R t u) : List.Forall₂ R t.values u.values :=
  List.forall₂_map_left_iff.mpr (List.forall₂_map_right_iff.mpr (h.imp fun _ _ he => he.2))

theorem keys_eq (h : Aligned R t u) : t.keys = u.keys :=
  map_eq_map h fun _ _ he => he.1

variable [DecidableEq κ]

theorem find?_key {l : List (κ × α)} {m : List (κ × β)}
    (h : List.Forall₂ (fun e d => e.1 = d.1 ∧ R e.2 d.2) l m) (k : κ) :
    Option.Rel R ((l.find? fun e => e.1 = k).map Prod.snd)
      ((m.find? fun e => e.1 = k).map Prod.snd) := by
  induction h with
  | nil => exact .none
  | @cons e d _ _ hed _ ih =>
    by_cases hk : e.1 = k
    · rw [List.find?_cons_of_pos (by simpa using hk),
        List.find?_cons_of_pos (by simpa using hed.1 ▸ hk)]
      exact .some hed.2
    · rw [List.find?_cons_of_neg (by simpa using hk),
        List.find?_cons_of_neg (by simpa using hed.1 ▸ hk)]
      exact ih

theorem get? (h : Aligned R t u) (k : κ) : Option.Rel R (t.get? k) (u.get? k) :=
  find?_key h k

theorem upsert_key {R : α → α → Prop} (hR : ∀ v, R v v) {l : List (κ × α)} {k : κ} {v w : α}
    (hl : (l.map Prod.fst).Nodup) (hv : (k, v) ∈ l) (hvw : R v w) :
    List.Forall₂ (fun e d => e.1 = d.1 ∧ R e.2 d.2) l (upsert k w l) := by
  induction l with
  | nil => cases hv
  | cons e rest ih =>
    rw [List.map_cons, List.nodup_cons] at hl
    rw [upsert]
    by_cases hk : e.1 = k
    · rw [if_pos hk]
      rcases List.mem_cons.mp hv with rfl | hm
      · exact .cons ⟨rfl, hvw⟩ (List.forall₂_same.mpr fun e _ => ⟨rfl, hR e.2⟩)
      · exact absurd (List.mem_map_of_mem (f := Prod.fst) hm) (hk ▸ hl.1)
    · rw [if_neg hk]
      have hm : (k, v) ∈ rest := (List.mem_cons.mp hv).resolve_left fun he => hk (he ▸ rfl)
      exact .cons ⟨rfl, hR e.2⟩ (ih hl.2 hm)

/-- A value that is replaced under its key leaves all else in its place. -/
theorem insert {R : α → α → Prop} (hR : ∀ v, R v v) {t : Table κ α} {k : κ} {v w : α}
    (hv : t.get? k = some v) (hvw : R v w) : Aligned R t (t.insert k w) :=
  upsert_key hR t.keys_nodup ((t.get?_eq_some_iff k v).mp hv) hvw

end Table.Aligned

/-- Both computations fail, or both have a result. -/
inductive Corresponds {ε δ α β : Type} (E : ε → δ → Prop) (R : α → β → Prop) :
    Except ε α → Except δ β → Prop
  | ok {a : α} {b : β} (h : R a b) : Corresponds E R (.ok a) (.ok b)
  | error {e : ε} {d : δ} (h : E e d) : Corresponds E R (.error e) (.error d)

namespace Corresponds

variable {ε δ ε' δ' α β γ κ : Type} {E : ε → δ → Prop} {R : α → β → Prop} {S : γ → κ → Prop}
variable {x : Except ε α} {y : Except δ β}

theorem refl {R : α → α → Prop} {E : ε → ε → Prop} (hE : ∀ e, E e e) (hR : ∀ a, R a a)
    (x : Except ε α) : Corresponds E R x x := by
  cases x with
  | error e => exact .error (hE e)
  | ok a => exact .ok (hR a)

theorem eq_iff {x y : Except ε α} : Corresponds Eq Eq x y ↔ x = y := by
  constructor
  · intro h
    cases h with
    | ok h => rw [h]
    | error h => rw [h]
  · rintro rfl
    exact refl (fun _ => rfl) (fun _ => rfl) x

theorem imp {S : α → β → Prop} (h : Corresponds E R x y) (hS : ∀ a b, R a b → S a b) :
    Corresponds E S x y := by
  cases h with
  | ok hab => exact .ok (hS _ _ hab)
  | error hed => exact .error hed

theorem bind {f : α → Except ε γ} {g : β → Except δ κ} (h : Corresponds E R x y)
    (hf : ∀ a b, R a b → Corresponds E S (f a) (g b)) :
    Corresponds E S (x >>= f) (y >>= g) := by
  cases h with
  | ok hab => exact hf _ _ hab
  | error hed => exact .error hed

theorem map {f : α → γ} {g : β → κ} (h : Corresponds E R x y) (hf : ∀ a b, R a b → S (f a) (g b)) :
    Corresponds E S (x.map f) (y.map g) := by
  cases h with
  | ok hab => exact .ok (hf _ _ hab)
  | error hed => exact .error hed

theorem mapError {E' : ε' → δ' → Prop} {f : ε → ε'} {g : δ → δ'} (h : Corresponds E R x y)
    (hf : ∀ e d, E e d → E' (f e) (g d)) : Corresponds E' R (x.mapError f) (y.mapError g) := by
  cases h with
  | ok hab => exact .ok hab
  | error hed => exact .error (hf _ _ hed)

theorem guard {p q : Prop} [Decidable p] [Decidable q] {e : ε} {d : δ} (hpq : p ↔ q)
    (he : E e d) (h : Corresponds E R x y) :
    Corresponds E R (if p then ((throw e : Except ε γ) >>= fun _ => x) else x)
      (if q then ((throw d : Except δ κ) >>= fun _ => y) else y) := by
  by_cases hp : p
  · rw [if_pos hp, if_pos (hpq.mp hp)]
    exact .error he
  · rw [if_neg hp, if_neg (mt hpq.mpr hp)]
    exact h

theorem mapM {T : γ → κ → Prop} {f : γ → Except ε α} {g : κ → Except δ β} {l : List γ}
    {m : List κ} (h : List.Forall₂ T l m) (hf : ∀ a b, T a b → Corresponds E R (f a) (g b)) :
    Corresponds E (List.Forall₂ R) (l.mapM f) (m.mapM g) := by
  induction h with
  | nil =>
    rw [List.mapM_nil, List.mapM_nil]
    exact .ok .nil
  | cons hab _ ih =>
    rw [List.mapM_cons, List.mapM_cons]
    refine (hf _ _ hab).bind fun a b hR => ?_
    exact ih.bind fun as bs hRs => .ok (.cons hR hRs)

end Corresponds

/-- The same gap, or rejections for corresponding causes. -/
inductive Stop.Corresponds (E : Rejection → Rejection → Prop) : Stop → Stop → Prop
  | rejected {c d : Rejection} (h : E c d) : Stop.Corresponds E (.rejected c) (.rejected d)
  | gap (g : ShapeGap) : Stop.Corresponds E (.gap g) (.gap g)

namespace Stop.Corresponds

variable {E : Rejection → Rejection → Prop}

theorem refl (hE : ∀ c, E c c) (s : Stop) : Stop.Corresponds E s s := by
  cases s with
  | rejected c => exact .rejected (hE c)
  | gap g => exact .gap g

theorem eq_iff {s t : Stop} : Stop.Corresponds Eq s t ↔ s = t := by
  constructor
  · intro h
    cases h with
    | rejected h => rw [h]
    | gap g => rfl
  · rintro rfl
    exact refl (fun _ => rfl) s

end Stop.Corresponds

end HydrationPlan
