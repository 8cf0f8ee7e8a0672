import HydrationPlan.Proofs.Assignability.Violation
import HydrationPlan.Proofs.Canonical

/-!
# Stricter types

A type becomes stricter if null is no longer allowed at some of its places. A stricter type may be
supplied wherever the type may be, and a type may be passed wherever a stricter one is required.
-/

namespace HydrationPlan

namespace TypeRef

/-- One nullability is dropped, at any place. -/
inductive Drops : TypeRef → TypeRef → Prop
  | here (t : TypeRef) : Drops (.nullable t) t
  | nullable {t u : TypeRef} (h : Drops t u) : Drops (.nullable t) (.nullable u)
  | list {t u : TypeRef} (h : Drops t u) : Drops (.list t) (.list u)

/-- Any number of nullabilities are dropped. -/
def DropsTo : TypeRef → TypeRef → Prop := Relation.ReflTransGen Drops

variable {t u v : TypeRef} {leaf : String → String → Prop}

theorem Fits.refl (hleaf : ∀ x, leaf x x) (t : TypeRef) : Fits leaf t t := by
  induction t with
  | named x => exact .named (hleaf x)
  | nullable t ih => exact .nullable ih
  | list t ih => exact .list ih

theorem Fits.trans {leaf' leaf'' : String → String → Prop}
    (hleaf : ∀ x y z, leaf x y → leaf' y z → leaf'' x z) (htu : Fits leaf t u)
    (huv : Fits leaf' u v) : Fits leaf'' t v := by
  induction huv generalizing t with
  | named hyz =>
    cases htu with
    | named hxy => exact .named (hleaf _ _ _ hxy hyz)
  | list _ ih =>
    cases htu with
    | list htu => exact .list (ih htu)
  | nullable _ ih =>
    cases htu with
    | nullable htu => exact .nullable (ih htu)
    | intoNullable htu => exact .intoNullable (ih htu)
  | intoNullable _ ih => exact .intoNullable (ih htu)

theorem Fits.of_fits_left (htu : Fits Eq t u) (huv : Fits leaf u v) : Fits leaf t v := by
  refine htu.trans ?_ huv
  rintro x _ z rfl hxz
  exact hxz

theorem Fits.of_fits_right (htu : Fits leaf t u) (huv : Fits Eq u v) : Fits leaf t v := by
  refine htu.trans ?_ huv
  rintro x y _ hxy rfl
  exact hxy

theorem Fits.listDepth_eq (h : Fits leaf t u) : t.listDepth = u.listDepth := by
  induction h with
  | named _ => rfl
  | list _ ih => exact congrArg (· + 1) ih
  | nullable _ ih => exact ih
  | intoNullable _ ih => exact ih

theorem Drops.fits (h : Drops t u) : Fits Eq u t := by
  induction h with
  | here t => exact .intoNullable (.refl (fun _ => rfl) t)
  | nullable _ ih => exact .nullable ih
  | list _ ih => exact .list ih

/-- What is left after dropping fits what was there, and nothing else does with the same name. -/
theorem dropsTo_iff_fits : DropsTo t u ↔ Fits Eq u t := by
  constructor
  · intro h
    induction h with
    | refl => exact .refl (fun _ => rfl) t
    | tail _ hstep ih => exact hstep.fits.of_fits_left ih
  · intro h
    induction h with
    | named hxy => exact hxy ▸ .refl
    | list _ ih => exact ih.lift TypeRef.list fun _ _ => .list
    | nullable _ ih => exact ih.lift TypeRef.nullable fun _ _ => .nullable
    | intoNullable _ ih => exact .head (.here _) ih

namespace DropsTo

variable (h : DropsTo t u)
include h

theorem listDepth_eq : t.listDepth = u.listDepth := (dropsTo_iff_fits.mp h).listDepth_eq.symm

theorem namedType_eq : t.namedType = u.namedType := (dropsTo_iff_fits.mp h).namedTypes.symm

theorem isNullable (hu : u.isNullable = true) : t.isNullable = true := by
  cases dropsTo_iff_fits.mp h with
  | named _ => exact hu
  | list _ => exact hu
  | nullable _ => rfl
  | intoNullable _ => rfl

/-- Under stacked nullabilities a list is not seen as one. -/
theorem isList_eq (ht : t.Canonical) (hu : u.Canonical) : t.isList = u.isList := by
  rw [Bool.eq_iff_iff, isList_iff_listDepth_pos ht, isList_iff_listDepth_pos hu, h.listDepth_eq]

end DropsTo

/-- The wrappers that a stricter supply and a laxer demand have fit as well. -/
theorem Fits.of_dropsTo {t' u' : TypeRef} (h : Fits leaf t u) (ht : DropsTo t t')
    (hu : DropsTo u' u) : Fits leaf t' u' :=
  ((dropsTo_iff_fits.mp ht).of_fits_left h).of_fits_right (dropsTo_iff_fits.mp hu)

end TypeRef

namespace Schema

open TypeRef

variable {s : Schema} {c : Config} {isBatch : Bool} {kind : SupplyKind}
variable {supplied supplied' required required' : TypeRef}

theorem comparedNames_of_dropsTo {x y : String} (hs : DropsTo supplied supplied')
    (hr : DropsTo required' required)
    (h : comparedNames isBatch kind supplied required = some (x, y)) :
    comparedNames isBatch kind supplied' required' = some (x, y) := by
  by_cases hn : isBatch = true ∨ kind = .sourceField
  · rw [comparedNames_of_named hn] at h ⊢
    rw [← h, hs.namedType_eq, hr.namedType_eq]
  · rw [comparedNames_of_wrapped hn] at h ⊢
    have hfits : TypeRef.Fits (fun a b => a = x ∧ b = y) supplied required :=
      fits_iff_meet.mpr ⟨x, y, h, rfl, rfl⟩
    obtain ⟨a, b, hmeet, rfl, rfl⟩ := fits_iff_meet.mp (hfits.of_dropsTo hs hr)
    exact hmeet

/-- The check is monotone in strictness, for unbatched fields and for batched ones. -/
theorem checkAssignable_of_dropsTo (hs : DropsTo supplied supplied')
    (hr : DropsTo required' required)
    (h : s.checkAssignable c isBatch kind supplied required = .ok ()) :
    s.checkAssignable c isBatch kind supplied' required' = .ok () := by
  rw [checkAssignable_eq_ok_iff_meeting] at h ⊢
  obtain ⟨hkey, x, y, hnames, hmeeting⟩ := h
  refine ⟨fun hb hk => ?_, x, y, comparedNames_of_dropsTo hs hr hnames, hmeeting⟩
  rw [hr.listDepth_eq]
  exact hkey hb hk

/-- Lists of different depths never meet. -/
theorem checkAssignable_of_listDepth_ne (hk : kind ≠ .sourceField)
    (h : supplied.listDepth ≠ required.listDepth) :
    s.checkAssignable c false kind supplied required =
      .error (.incompatibleInputType supplied.text required.text) := by
  have hmeet : supplied.meet? required = none := by
    rw [Option.eq_none_iff_forall_ne_some]
    rintro ⟨x, y⟩ hxy
    have hfits : TypeRef.Fits (fun _ _ => True) supplied required :=
      fits_iff_meet.mpr ⟨x, y, hxy, trivial⟩
    exact h hfits.listDepth_eq
  have hcompared : comparedNames false kind supplied required = none := by
    rw [comparedNames_of_wrapped (by simp [hk]), hmeet]
  unfold checkAssignable
  dsimp only
  rw [← comparedNames, hcompared]
  rfl

end Schema

end HydrationPlan
