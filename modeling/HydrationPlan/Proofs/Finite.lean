import HydrationPlan.Json.Number
import Mathlib.Algebra.Group.Int.Defs
import Mathlib.Algebra.Group.Nat.Defs

/-!
# Finite floating-point numbers

Rounding keeps a number finite as long as its leading digit does not lie too high. So the whole
numbers of 64 bits are finite, and a finite number stays finite when it is negated or divided by a
power of ten.
-/

namespace HydrationPlan

open Float.Model (Format UnpackedFloat totalExponent)
open Float.Model.UnpackedFloat

def IsFinite (x : Float) : Prop := x.isFinite = true

section Rounding

theorem mantissa_shiftRight (em : ExtendedMantissa) (n : Nat) :
    (em >>> n).mantissa = em.mantissa / 2 ^ n := by
  induction n with
  | zero => exact (Nat.div_one _).symm
  | succ n ih =>
    rw [Nat.pow_succ, ← Nat.div_div_eq_div_mul, ← ih]
    rfl

theorem roundedMantissa_bounds (em : ExtendedMantissa) :
    em.mantissa ≤ em.roundedMantissa ∧ em.roundedMantissa ≤ em.mantissa + 1 := by
  obtain ⟨m, _ | _, _ | _⟩ := em <;>
    simp only [ExtendedMantissa.roundedMantissa, ExtendedMantissa.accuracy,
      Accuracy.roundToNearestEven] <;> omega

theorem log2_le_iff {m k : Nat} : m.log2 ≤ k ↔ m < 2 ^ (k + 1) := by
  rcases Nat.eq_zero_or_pos m with rfl | hm
  · exact iff_of_true (Nat.zero_le k) (Nat.two_pow_pos (k + 1))
  · rw [← Nat.log2_lt (Nat.ne_of_gt hm), Nat.lt_succ_iff]

theorem log2_shiftLeft_le (m k : Nat) : (m <<< k).log2 ≤ m.log2 + k := by
  rw [log2_le_iff, Nat.shiftLeft_eq, Nat.add_right_comm, Nat.pow_add]
  exact Nat.mul_lt_mul_of_pos_right (log2_le_iff.mp (Nat.le_refl _)) (Nat.two_pow_pos k)

theorem log2_div_le (m : Nat) {n : Nat} (hn : n ≠ 0) : (m / n).log2 ≤ m.log2 - n.log2 := by
  rw [log2_le_iff, Nat.div_lt_iff_lt_mul (Nat.pos_of_ne_zero hn)]
  calc
    m < 2 ^ (m.log2 + 1) := log2_le_iff.mp (Nat.le_refl _)
    _ ≤ 2 ^ (m.log2 - n.log2 + 1 + n.log2) := Nat.pow_le_pow_right (by decide) (by omega)
    _ = 2 ^ (m.log2 - n.log2 + 1) * 2 ^ n.log2 := Nat.pow_add ..
    _ ≤ 2 ^ (m.log2 - n.log2 + 1) * n := Nat.mul_le_mul_left _ (Nat.log2_self_le hn)

/-- The number of digits that rounding drops. -/
def excess (m : Nat) (e : Int) : Nat :=
  (Format.binary64.targetExponent (totalExponent m e) - e).toNat

theorem excess_eq (m : Nat) (e : Int) :
    excess m e = (max (m.log2 + 1 + e - 53) (-1074) - e).toNat := rfl

theorem shiftToTargetExponent_fst (m : Nat) (e : Int) (accuracy : Accuracy) :
    (shiftToTargetExponent .binary64 m e accuracy).1.mantissa = m / 2 ^ excess m e := by
  have hm : (ExtendedMantissa.ofMantissaAndAccuracy m accuracy).mantissa = m := by
    obtain _ | (_ | _ | _) := accuracy <;> rfl
  exact (mantissa_shiftRight _ _).trans (by rw [hm]; rfl)

theorem roundWithAccuracy_eq (s : Sign) {m r q : Nat} {e e' : Int} {accuracy : Accuracy}
    (hr : (shiftToTargetExponent .binary64 m e accuracy).1.roundedMantissa = r)
    (hq : r / 2 ^ excess r (e + excess m e) = q)
    (he : e + excess m e + excess r (e + excess m e) = e') :
    roundWithAccuracy .binary64 s m e accuracy =
      if h : q = 0 then .zero s else .finite s q e' (Nat.pos_of_ne_zero h) := by
  subst hr
  rw [← shiftToTargetExponent_fst _ _ .exact] at hq
  subst hq he
  rfl

/-- What rounding can do: digits are dropped, and one may be added to the last digit that is left.
A carry out of all digits drops one more. -/
theorem roundWithAccuracy_cases (s : Sign) (m : Nat) (e : Int) (accuracy : Accuracy) :
    ∃ r, m / 2 ^ excess m e ≤ r ∧ r ≤ m / 2 ^ excess m e + 1 ∧
      (r = 0 ∧ roundWithAccuracy .binary64 s m e accuracy = .zero s ∨
        (r < 2 ^ 53 ∧ ∃ h, roundWithAccuracy .binary64 s m e accuracy =
          .finite s r (e + excess m e) h) ∨
        r = 2 ^ 53 ∧ ∃ h, roundWithAccuracy .binary64 s m e accuracy =
          .finite s (2 ^ 52) (e + excess m e + 1) h) := by
  have hbounds := roundedMantissa_bounds (shiftToTargetExponent .binary64 m e accuracy).1
  rw [shiftToTargetExponent_fst] at hbounds
  generalize hr : (shiftToTargetExponent .binary64 m e accuracy).1.roundedMantissa = r at hbounds
  have hdropped : m / 2 ^ excess m e < 2 ^ 53 := by
    rw [Nat.div_lt_iff_lt_mul (Nat.two_pow_pos _), ← Nat.pow_add,
      show 53 + excess m e = 52 + excess m e + 1 by omega, ← log2_le_iff, excess_eq]
    omega
  have hleast : -1074 ≤ e + excess m e := by
    rw [excess_eq]
    omega
  refine ⟨r, hbounds.1, hbounds.2, ?_⟩
  by_cases hlt : r < 2 ^ 53
  · have hnone : excess r (e + excess m e) = 0 := by
      have := log2_le_iff.mpr hlt
      rw [excess_eq]
      omega
    have hkept : e + excess m e + excess r (e + excess m e) = e + excess m e := by
      rw [hnone]
      exact Int.add_zero _
    have hround := roundWithAccuracy_eq s hr (by rw [hnone, Nat.pow_zero, Nat.div_one]) hkept
    by_cases hzero : r = 0
    · exact .inl ⟨hzero, hround.trans (dif_pos hzero)⟩
    · exact .inr (.inl ⟨hlt, Nat.pos_of_ne_zero hzero, hround.trans (dif_neg hzero)⟩)
  · have hcarry : r = 2 ^ 53 := by omega
    subst hcarry
    have hone : excess (2 ^ 53) (e + excess m e) = 1 := by
      rw [excess_eq, Nat.log2_two_pow]
      omega
    have hhalf : 2 ^ 53 / 2 ^ excess (2 ^ 53) (e + excess m e) = 2 ^ 52 :=
      (congrArg (2 ^ 53 / 2 ^ ·) hone).trans (by decide)
    have hround := roundWithAccuracy_eq s hr hhalf (by rw [hone])
    exact .inr (.inr ⟨rfl, by decide, hround⟩)

/-- The number is finite, and stays so when it is packed. -/
def Fits : UnpackedFloat → Prop
  | .zero _ => True
  | .finite _ m e _ => m < 2 ^ 53 ∧ e ≤ 971
  | _ => False

theorem fits_roundWithAccuracy (s : Sign) {m : Nat} {e : Int} (accuracy : Accuracy) (he : e ≤ 970)
    (hm : m.log2 + e ≤ 1022) : Fits (roundWithAccuracy .binary64 s m e accuracy) := by
  obtain ⟨r, -, -, ⟨-, hzero⟩ | ⟨hr, _, hround⟩ | ⟨-, _, hcarry⟩⟩ :=
    roundWithAccuracy_cases s m e accuracy
  · rw [hzero]
    trivial
  · rw [hround]
    refine ⟨hr, ?_⟩
    rw [excess_eq]
    omega
  · rw [hcarry]
    refine ⟨by decide, ?_⟩
    rw [excess_eq]
    omega

theorem fits_round (s : Sign) {m : Nat} (hm : m < 2 ^ 64) : Fits (round .binary64 s m 0) := by
  have hbits : m.log2 ≤ 63 := log2_le_iff.mpr hm
  refine fits_roundWithAccuracy s .exact ?_ ?_
  · omega
  · have := log2_shiftLeft_le m (0 - Format.binary64.targetExponent (totalExponent m 0)).toNat
    omega

/-- The number is infinite or at least two. -/
def isLarge : UnpackedFloat → Bool
  | .infinity _ => true
  | .finite _ m e _ => 1 ≤ m.log2 + e
  | _ => false

theorem fits_div {x y : UnpackedFloat} (hx : Fits x) (hy : isLarge y = true) :
    Fits (div .binary64 x y) := by
  cases y with
  | infinity => cases x <;> first | exact hx | trivial
  | notANumber => cases hy
  | zero => cases hy
  | finite s₂ m₂ e₂ hm₂ =>
    cases x with
    | infinity => exact hx
    | notANumber => exact hx
    | zero => trivial
    | finite s₁ m₁ e₁ hm₁ =>
      obtain ⟨hm, he⟩ := hx
      have hbits : m₁.log2 ≤ 52 := log2_le_iff.mpr hm
      have hlarge : 1 ≤ m₂.log2 + e₂ := of_decide_eq_true hy
      let target := Format.binary64.targetExponent (totalExponent m₁ e₁ - totalExponent m₂ e₂)
      have htarget : target =
          max (m₁.log2 + 1 + e₁ - (m₂.log2 + 1 + e₂) - 53) (-1074) := rfl
      refine fits_roundWithAccuracy _ _ (e := min (e₁ - e₂) target) ?_ ?_
      · omega
      · let k := (e₁ - e₂ - min (e₁ - e₂) target).toNat
        have hshift : (m₁ <<< k).log2 ≤ m₁.log2 + k := log2_shiftLeft_le m₁ k
        have hquotient : ((m₁ <<< k) / m₂).log2 ≤ (m₁ <<< k).log2 - m₂.log2 :=
          log2_div_le _ (Nat.ne_of_gt hm₂)
        change ((m₁ <<< k) / m₂).log2 + min (e₁ - e₂) target ≤ 1022
        omega

end Rounding

section Packing

variable {b : BitVec 64}

/-- What the bits may hold: the last exponent marks infinities and what is no number, the first one
numbers without a leading digit. -/
theorem unpack_cases (b : BitVec 64) :
    (@unpackExponent .binary64 b = -1#_ ∧
        (@unpackMantissa .binary64 b = 0#_ ∧ (∃ s, unpack .binary64 b = .infinity s) ∨
          @unpackMantissa .binary64 b ≠ 0#_ ∧ unpack .binary64 b = .notANumber)) ∨
      (@unpackExponent .binary64 b ≠ -1#_ ∧ @unpackExponent .binary64 b = 0#_ ∧
        ((∃ s, unpack .binary64 b = .zero s) ∨ ∃ s h, unpack .binary64 b =
          .finite s (@unpackMantissa .binary64 b).toNat
            ((@unpackExponent .binary64 b).toNat - (1023 + 52) + 1) h)) ∨
      @unpackExponent .binary64 b ≠ -1#_ ∧ @unpackExponent .binary64 b ≠ 0#_ ∧
        ∃ s h, unpack .binary64 b = .finite s (1#1 ++ @unpackMantissa .binary64 b).toNat
          ((@unpackExponent .binary64 b).toNat - (1023 + 52)) h := by
  by_cases hlast : @unpackExponent .binary64 b = -1#_
  · refine .inl ⟨hlast, ?_⟩
    by_cases hm : @unpackMantissa .binary64 b = 0#_
    · exact .inl ⟨hm, _, (if_pos hlast).trans (if_pos hm)⟩
    · exact .inr ⟨hm, (if_pos hlast).trans (if_neg hm)⟩
  · refine .inr ?_
    by_cases hfirst : @unpackExponent .binary64 b = 0#_
    · refine .inl ⟨hlast, hfirst, ?_⟩
      by_cases hm : @unpackMantissa .binary64 b = 0#_
      · exact .inl ⟨_, (if_neg hlast).trans ((if_pos hfirst).trans (dif_pos hm))⟩
      · exact .inr ⟨_, _, (if_neg hlast).trans ((if_pos hfirst).trans (dif_neg hm))⟩
    · exact .inr ⟨hlast, hfirst, _, _, (if_neg hlast).trans (if_neg hfirst)⟩

theorem isFinite_unpack (h : @unpackExponent .binary64 b ≠ -1#_) :
    (unpack .binary64 b).isFinite = true := by
  obtain ⟨hlast, -⟩ | ⟨-, -, ⟨_, hb⟩ | ⟨_, _, hb⟩⟩ | ⟨-, -, _, _, hb⟩ := unpack_cases b
  · exact absurd hlast h
  all_goals
    rw [hb]
    rfl

theorem fits_unpack (h : (unpack .binary64 b).isFinite = true) : Fits (unpack .binary64 b) := by
  have hunbiased : ∀ n : Nat, n < 2047 → (n : Int) - (1023 + 52) ≤ 971 := by omega
  obtain ⟨-, ⟨-, _, hb⟩ | ⟨-, hb⟩⟩ | ⟨-, hfirst, ⟨_, hb⟩ | ⟨_, _, hb⟩⟩ | ⟨hlast, -, _, _, hb⟩ :=
    unpack_cases b
  · rw [hb] at h
    cases h
  · rw [hb] at h
    cases h
  · rw [hb]
    trivial
  · rw [hb, hfirst]
    exact ⟨Nat.lt_trans (@unpackMantissa .binary64 b).isLt (by decide), by decide⟩
  · have hlt : (@unpackExponent .binary64 b).toNat < 2047 :=
      Nat.lt_of_le_of_ne (Nat.le_of_lt_succ (BitVec.isLt _)) fun h =>
        hlast (BitVec.eq_of_toNat_eq h)
    rw [hb]
    exact ⟨(1#1 ++ @unpackMantissa .binary64 b).isLt, hunbiased _ hlt⟩

theorem isLarge_unpack (he : 1076 ≤ (@unpackExponent .binary64 b).toNat)
    (hm : @unpackExponent .binary64 b = -1#_ → @unpackMantissa .binary64 b = 0#_) :
    isLarge (unpack .binary64 b) = true := by
  have hunbiased : ∀ n k : Nat, 1076 ≤ n → 1 ≤ (k : Int) + ((n : Int) - (1023 + 52)) := by omega
  obtain ⟨hlast, ⟨-, _, hb⟩ | ⟨hne, -⟩⟩ | ⟨-, hfirst, -⟩ | ⟨-, -, _, _, hb⟩ := unpack_cases b
  · rw [hb]
    rfl
  · exact absurd (hm hlast) hne
  · rw [hfirst] at he
    exact absurd he (by decide)
  · rw [hb]
    exact decide_eq_true (hunbiased _ _ he)

theorem pack_finite (s : Sign) {m : Nat} (e : Int) (hm : 0 < m) :
    pack .binary64 (.finite s m e hm) =
      if 2048 ≤ (e + 1023 + 52).toNat + 1 then packedInfinity .binary64 s
      else if m.log2 + 1 = 53 then
        packComponents .binary64 s (.ofNat _ (e + 1023 + 52).toNat) (.ofNat _ m)
      else packComponents .binary64 s 0#_ (.ofNat _ m) := rfl

theorem isFinite_pack {x : UnpackedFloat} (h : Fits x) :
    (Float.Model.pack x).isFinite = true := by
  apply isFinite_unpack
  change unpackExponent (pack .binary64 x) ≠ _
  cases x with
  | infinity => cases h
  | notANumber => cases h
  | zero s =>
    change unpackExponent (packedZero .binary64 s) ≠ _
    rw [packedZero, unpackExponent_packComponents]
    decide
  | finite s m e hm =>
    have he : (e + 1023 + 52).toNat + 1 < 2048 := by
      have := h.2
      omega
    rw [pack_finite]
    split
    · rename_i hle
      exact absurd hle (Nat.not_le_of_lt he)
    · split
      · rw [unpackExponent_packComponents]
        intro hlast
        have : (e + 1023 + 52).toNat % 2048 = 2047 := congrArg BitVec.toNat hlast
        omega
      · rw [unpackExponent_packComponents]
        decide

theorem isLarge_pack {s : Sign} {m : Nat} {e : Int} {hm : 0 < m} (hnormal : m.log2 = 52)
    (he : 1 ≤ e) : isLarge (Float.Model.pack (.finite s m e hm)).unpack = true := by
  change isLarge (unpack .binary64 (pack .binary64 (.finite s m e hm))) = true
  rw [pack_finite]
  split
  · unfold packedInfinity
    apply isLarge_unpack
    · rw [unpackExponent_packComponents]
      decide
    · exact fun _ => unpackMantissa_packComponents
  · rename_i hle
    have hbits : m.log2 + 1 = 53 := congrArg (· + 1) hnormal
    have hsmall : (e + 1023 + 52).toNat + 1 < 2048 := Nat.lt_of_not_le hle
    rw [if_pos hbits]
    apply isLarge_unpack
    · rw [unpackExponent_packComponents]
      change 1076 ≤ (e + 1023 + 52).toNat % 2048
      omega
    · rw [unpackExponent_packComponents]
      intro hlast
      have : (e + 1023 + 52).toNat % 2048 = 2047 := congrArg BitVec.toNat hlast
      omega

end Packing

section Arithmetic

variable {x y : Float}

theorem IsFinite.fits (h : IsFinite x) : Fits x.toModel.unpack := fits_unpack h

theorem IsFinite.neg (h : IsFinite x) : IsFinite (-x) := by
  refine isFinite_pack ?_
  have hfits : Fits x.toModel.unpack := h.fits
  revert hfits
  cases x.toModel.unpack <;> exact id

theorem IsFinite.div (hx : IsFinite x) (hy : isLarge y.toModel.unpack = true) :
    IsFinite (x / y) :=
  isFinite_pack (fits_div hx.fits hy)

theorem isFinite_toFloat (n : UInt64) : IsFinite n.toFloat := by
  refine isFinite_pack ?_
  change Fits (UnpackedFloat.normalize .binary64 (n.toNat : Int) 0 .positive)
  unfold UnpackedFloat.normalize
  split
  · exact fits_round _ (Nat.lt_of_le_of_lt (by omega) n.toNat_lt)
  · trivial
  · exact fits_round _ n.toNat_lt

theorem isLarge_roundWithAccuracy (s : Sign) {m : Nat} {e : Int} (accuracy : Accuracy)
    (hbits : 52 ≤ m.log2) (hm : 53 ≤ m.log2 + e) :
    isLarge (Float.Model.pack (roundWithAccuracy .binary64 s m e accuracy)).unpack = true := by
  have hexcess : excess m e = m.log2 - 52 := by
    rw [excess_eq]
    omega
  have hleading : 2 ^ 52 ≤ m / 2 ^ excess m e := by
    have hne : m ≠ 0 := by
      rintro rfl
      exact absurd hbits (by decide)
    rw [Nat.le_div_iff_mul_le (Nat.two_pow_pos _), ← Nat.pow_add, hexcess,
      Nat.add_sub_cancel' hbits]
    exact Nat.log2_self_le hne
  obtain ⟨r, hr, -, ⟨hzero, -⟩ | ⟨hlt, hpos, hround⟩ | ⟨-, _, hcarry⟩⟩ :=
    roundWithAccuracy_cases s m e accuracy
  · omega
  · have hlog : r.log2 = 52 :=
      (Nat.log2_eq_iff (Nat.ne_of_gt hpos)).mpr ⟨Nat.le_trans hleading hr, hlt⟩
    rw [hround]
    exact isLarge_pack hlog (by omega)
  · rw [hcarry]
    exact isLarge_pack (Nat.log2_two_pow) (by omega)

theorem powerOfTen_eq {n : Nat} (hn : 22 < n) (h : n ≤ 308) : Json.powerOfTen n =
    .ofModel (.pack (roundWithAccuracy .binary64 .positive (1 <<< 53 * 10 ^ n) (-53) .exact)) := by
  have hnonneg : 0 ≤ Int.ofNat n := Int.natCast_nonneg n
  have hhuge : ¬ Int.ofNat n > 2 ^ 11 := by
    change ¬ (n : Int) > 2048
    omega
  have htiny : ¬ Int.ofNat n < -(2 ^ 11 + (Nat.log2 1 : Int)) := by
    change ¬ (n : Int) < -(2048 + 0)
    omega
  unfold Json.powerOfTen Float.ofScientific
  rw [dif_neg (by omega)]
  unfold Float.Model.ofScientific ofScientific
  rw [if_neg Bool.false_ne_true]
  dsimp only
  rw [dif_neg Nat.one_ne_zero, if_neg hhuge, if_neg htiny, if_pos hnonneg]
  rfl

theorem isLarge_powerOfTen {n : Nat} (hpos : 1 ≤ n) (h : n ≤ 308) :
    isLarge (Json.powerOfTen n).toModel.unpack = true := by
  rcases Nat.lt_or_ge 22 n with hn | hn
  · have hpower : 10 ^ n ≠ 0 := Nat.ne_of_gt (Nat.pow_pos (by decide))
    have hne : 1 <<< 53 * 10 ^ n ≠ 0 := Nat.mul_ne_zero (by decide) hpower
    have hlog : 122 ≤ (1 <<< 53 * 10 ^ n).log2 := by
      rw [Nat.le_log2 hne]
      calc
        2 ^ 122 = 1 <<< 53 * 8 ^ 23 := by decide
        _ ≤ 1 <<< 53 * 10 ^ 23 := Nat.mul_le_mul_left _ (by decide)
        _ ≤ 1 <<< 53 * 10 ^ n := Nat.mul_le_mul_left _ (Nat.pow_le_pow_right (by decide) hn)
    rw [powerOfTen_eq hn h]
    exact isLarge_roundWithAccuracy _ _ (by omega) (by omega)
  · have hall : ∀ k : Fin 22, isLarge (Json.powerOfTen (k + 1)).toModel.unpack = true := by
      decide +kernel
    have := hall ⟨n - 1, by omega⟩
    rwa [Nat.sub_add_cancel hpos] at this

theorem IsFinite.scaleDown {n : Nat} (hx : IsFinite x) (hn : 1 ≤ n) :
    IsFinite (Json.scaleDown x n) := by
  induction x, n using Json.scaleDown.induct with
  | case1 x n hle =>
    rw [Json.scaleDown, if_pos hle]
    exact hx.div (isLarge_powerOfTen hn hle)
  | case2 x n hlt hzero =>
    rw [Json.scaleDown, if_neg hlt, if_pos hzero]
    exact hx
  | case3 x n hlt hzero ih =>
    rw [Json.scaleDown, if_neg hlt, if_neg hzero]
    exact ih (hx.div (isLarge_powerOfTen (by decide) (by decide))) (by omega)

theorem isFinite_of_scale? {e : Int} (hx : IsFinite x) (h : Json.scale? x e = some y) :
    IsFinite y := by
  unfold Json.scale? at h
  split at h
  · cases h
    exact hx.scaleDown (by omega)
  · split at h
    · dsimp only at h
      split at h
      · rename_i hfinite
        cases h
        exact hfinite
      · cases h
    · split at h
      · cases h
        exact hx
      · cases h

end Arithmetic

end HydrationPlan
