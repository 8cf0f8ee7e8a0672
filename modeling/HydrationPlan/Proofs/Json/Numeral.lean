import HydrationPlan.Json.Printer
import HydrationPlan.Json.Token
import HydrationPlan.Proofs.Finite
import HydrationPlan.Proofs.Json.Document
import Mathlib.Data.List.TakeWhile

/-!
# Numerals

A number is scanned as far as its digits go, so that a following comma or bracket changes nothing.
A whole number is written with digits that are scanned as that number.
-/

namespace HydrationPlan.Json

/-- At the end, or before a separator or a bracket that closes. -/
def Delimited (r : List Char) : Prop := ∀ c ∈ r.head?, c = ',' ∨ c = ']' ∨ c = '\x7d'

section Append

variable {s r : List Char}

theorem takeWhile_append {p : Char → Bool} (hr : ∀ c ∈ r.head?, p c = false) :
    (s ++ r).takeWhile p = s.takeWhile p := by
  induction s with
  | nil =>
    cases r with
    | nil => rfl
    | cons c r => exact List.takeWhile_cons_of_neg (by simp [hr c rfl])
  | cons c s ih => rw [List.cons_append, List.takeWhile_cons, List.takeWhile_cons, ih]

theorem dropWhile_append {p : Char → Bool} (hr : ∀ c ∈ r.head?, p c = false) :
    (s ++ r).dropWhile p = s.dropWhile p ++ r := by
  induction s with
  | nil =>
    cases r with
    | nil => rfl
    | cons c r => exact List.dropWhile_cons_of_neg (by simp [hr c rfl])
  | cons c s ih =>
    rw [List.cons_append, List.dropWhile_cons, List.dropWhile_cons]
    split
    · exact ih
    · rfl

theorem Delimited.isDigit (hr : Delimited r) : ∀ c ∈ r.head?, c.isDigit = false := by
  intro c hc
  rcases hr c hc with rfl | rfl | rfl <;> rfl

theorem Delimited.scanFraction (hr : Delimited r) : scanFraction r = some ([], r) := by
  cases r with
  | nil => rfl
  | cons c r => rcases hr c rfl with rfl | rfl | rfl <;> rfl

theorem Delimited.scanExponent (hr : Delimited r) : scanExponent r = some (none, r) := by
  cases r with
  | nil => rfl
  | cons c r => rcases hr c rfl with rfl | rfl | rfl <;> rfl

theorem scanFraction_append (hr : Delimited r) {p : List Char × List Char}
    (h : scanFraction s = some p) : scanFraction (s ++ r) = some (p.1, p.2 ++ r) := by
  unfold scanFraction at h
  split at h
  · rename_i s
    dsimp only at h
    split at h
    · cases h
    · rename_i hdigits
      cases h
      rw [List.cons_append, Json.scanFraction, takeWhile_append hr.isDigit,
        dropWhile_append hr.isDigit]
      exact if_neg hdigits
  · rename_i hpoint
    cases h
    cases s with
    | nil => exact hr.scanFraction
    | cons c s =>
      unfold Json.scanFraction
      split
      · rename_i he
        cases he
        exact absurd rfl (hpoint _)
      · rfl

theorem exponentDigits?_append (hr : Delimited r) {negative : Bool} {p : Option Int × List Char}
    (h : exponentDigits? negative s = some p) :
    exponentDigits? negative (s ++ r) = some (p.1, p.2 ++ r) := by
  unfold exponentDigits? at h ⊢
  dsimp only at h ⊢
  split at h
  · cases h
  · rename_i hdigits
    cases h
    rw [takeWhile_append hr.isDigit, dropWhile_append hr.isDigit]
    exact if_neg hdigits

theorem scanExponent_letter {c : Char} (hc : c = 'e' ∨ c = 'E') (s : List Char) :
    scanExponent (c :: s) =
      match s with
      | '-' :: rest => exponentDigits? true rest
      | '+' :: rest => exponentDigits? false rest
      | rest => exponentDigits? false rest := by
  rcases hc with rfl | rfl <;> rfl

theorem scanExponent_letter_append (hr : Delimited r) {p : Option Int × List Char} {c : Char}
    (hc : c = 'e' ∨ c = 'E') (h : scanExponent (c :: s) = some p) :
    scanExponent (c :: (s ++ r)) = some (p.1, p.2 ++ r) := by
  rw [scanExponent_letter hc] at h ⊢
  cases s with
  | nil => cases h
  | cons d s =>
    rw [List.cons_append]
    split at h
    · rename_i he
      cases he
      exact exponentDigits?_append hr h
    · rename_i he
      cases he
      exact exponentDigits?_append hr h
    · rename_i hminus hplus
      split
      · rename_i he
        cases he
        exact absurd rfl (hminus _)
      · rename_i he
        cases he
        exact absurd rfl (hplus _)
      · exact exponentDigits?_append hr h

theorem scanExponent_append (hr : Delimited r) {p : Option Int × List Char}
    (h : scanExponent s = some p) : scanExponent (s ++ r) = some (p.1, p.2 ++ r) := by
  cases s with
  | nil =>
    cases h
    exact hr.scanExponent
  | cons c s =>
    by_cases hc : c = 'e' ∨ c = 'E'
    · exact scanExponent_letter_append hr hc h
    · have hnone : ∀ t, scanExponent (c :: t) = some (none, c :: t) := by
        intro t
        unfold scanExponent
        split
        · rename_i he
          cases he
          exact absurd (.inl rfl) hc
        · rename_i he
          cases he
          exact absurd (.inr rfl) hc
        · rfl
      rw [hnone] at h
      cases h
      exact hnone _

theorem scanNumber_append (hr : Delimited r) {negative : Bool} {p : Json × List Char}
    (h : scanNumber negative s = some p) :
    scanNumber negative (s ++ r) = some (p.1, p.2 ++ r) := by
  obtain ⟨hwhole, hzero, f, e, hf, he, rfl⟩ := scanNumber_eq_some_iff.mp h
  rw [scanNumber_eq_some_iff, takeWhile_append hr.isDigit, dropWhile_append hr.isDigit]
  exact ⟨hwhole, hzero, _, _, scanFraction_append hr hf, scanExponent_append hr he, rfl⟩

end Append

section Whole

open Nat (ofDigitChars toDigits)

theorem le_ofDigitChars (k : Nat) (l : List Char) : k ≤ ofDigitChars 10 l k := by
  induction l generalizing k with
  | nil => exact Nat.le_of_eq Nat.ofDigitChars_nil.symm
  | cons c l ih =>
    rw [Nat.ofDigitChars_cons]
    exact Nat.le_trans (by omega) (ih _)

theorem absorb_eq {k : Nat} {l : List Char} (h : ofDigitChars 10 l k < UInt64.size) :
    absorb k l = (ofDigitChars 10 l k, 0) := by
  induction l generalizing k with
  | nil => rw [absorb, Nat.ofDigitChars_nil]
  | cons c l ih =>
    rw [Nat.ofDigitChars_cons] at h ⊢
    have hnext : k * 10 + digitValue c = 10 * k + (c.toNat - '0'.toNat) := by
      rw [Nat.mul_comm, digitValue]
    rw [absorb, hnext]
    rw [if_pos (Nat.lt_of_le_of_lt (le_ofDigitChars _ l) h), ih h]

/-- Only the number zero begins with the digit zero. -/
theorem head?_toDigits {n : Nat} (hn : n ≠ 0) : (toDigits 10 n).head? ≠ some '0' := by
  induction n using Nat.strongRecOn with
  | ind n ih =>
    rw [Nat.toDigits_eq_if (by decide)]
    split
    · rename_i hlt
      have hdigit : ∀ k : Fin 10, k ≠ 0 → [Nat.digitChar k].head? ≠ some '0' := by decide
      exact hdigit ⟨n, hlt⟩ (fun h => hn (congrArg Fin.val h))
    · rename_i hle
      rw [List.head?_append_of_ne_nil _ Nat.toDigits_ne_nil]
      exact ih (n / 10) (by omega) (by omega)

theorem scanNumber_toDigits (negative : Bool) {n : Nat} (hn : n < UInt64.size) :
    scanNumber negative (toDigits 10 n) = some (wholeNumber negative n, []) := by
  have hdigit : ∀ c ∈ toDigits 10 n, c.isDigit = true := fun c hc =>
    Nat.isDigit_of_mem_toDigits (by decide) (by decide) hc
  have habsorb : absorb 0 (toDigits 10 n) = (n, 0) := by
    rw [absorb_eq (by rwa [Nat.ofDigitChars_ten_toDigits]), Nat.ofDigitChars_ten_toDigits]
  have hzero : (toDigits 10 n).head? = some '0' → (toDigits 10 n).length ≤ 1 := by
    intro hhead
    obtain rfl : n = 0 := not_imp_comm.mp head?_toDigits (not_not_intro hhead)
    exact Nat.le_refl 1
  rw [scanNumber_eq_some_iff, List.takeWhile_eq_self_iff.mpr hdigit,
    List.dropWhile_eq_nil_iff.mpr hdigit]
  refine ⟨Nat.toDigits_ne_nil, hzero, ([], []), (none, []), rfl, rfl, ?_⟩
  rw [number, habsorb]
  rfl

end Whole

section NextToken

theorem nextToken_digit {c : Char} (hc : c.isDigit = true) (s : List Char) :
    nextToken (c :: s) = (scanNumber false (c :: s)).map fun p => (some (.plain p.1), p.2) := by
  unfold nextToken
  split
  case h_13 =>
    rename_i he
    cases he
    refine if_neg ?_
    rintro (rfl | rfl | rfl | rfl) <;> cases hc
  all_goals
    rename_i he
    cases he
    try cases hc

theorem nextToken_minus (s : List Char) :
    nextToken ('-' :: s) = (scanNumber true s).map fun p => (some (.plain p.1), p.2) := rfl

/-- The whole text is one number. -/
def IsNumeral (s : List Char) (v : Json) : Prop :=
  (∃ c t, s = c :: t ∧ c.isDigit = true ∧ scanNumber false s = some (v, [])) ∨
    ∃ t, s = '-' :: t ∧ scanNumber true t = some (v, [])

theorem IsNumeral.nextToken_append {s r : List Char} {v : Json} (h : IsNumeral s v)
    (hr : Delimited r) : nextToken (s ++ r) = some (some (.plain v), r) := by
  rcases h with ⟨c, t, rfl, hc, hscan⟩ | ⟨t, rfl, hscan⟩
  · rw [List.cons_append, nextToken_digit hc, ← List.cons_append, scanNumber_append hr hscan]
    rfl
  · rw [List.cons_append, nextToken_minus, scanNumber_append hr hscan]
    rfl

theorem isNumeral_int {n : Int} (h : IsWhole n) : IsNumeral (toString n).toList (.int n) := by
  obtain ⟨hlow, hhigh⟩ := h
  rw [Int.toString_eq_repr, Int.repr_eq_if]
  split
  · rename_i hnonneg
    have hsize : n.toNat < 2 ^ 64 := by omega
    have hscan := scanNumber_toDigits false hsize
    have hwhole : wholeNumber false n.toNat = .int n :=
      congrArg Json.int (Int.toNat_of_nonneg hnonneg)
    rw [hwhole] at hscan
    obtain ⟨c, t, hdigits⟩ :=
      List.exists_cons_of_ne_nil (Nat.toDigits_ne_nil (n := n.toNat) (b := 10))
    have hc : c.isDigit = true :=
      Nat.isDigit_of_mem_toDigits (by decide) (by decide) (hdigits ▸ List.mem_cons_self)
    rw [Nat.toList_repr]
    exact .inl ⟨c, t, hdigits, hc, hscan⟩
  · rename_i hneg
    have hsize : (-n).toNat < 2 ^ 64 := by omega
    have hscan := scanNumber_toDigits true hsize
    have hwhole : wholeNumber true (-n).toNat = .int n := by
      unfold wholeNumber
      rw [if_neg (by decide), if_pos (by change 0 < (-n).toNat ∧ (-n).toNat ≤ 2 ^ 63; omega)]
      congr 1
      omega
    rw [hwhole] at hscan
    rw [String.toList_append, Nat.toList_repr]
    exact .inr ⟨_, rfl, hscan⟩

end NextToken

end HydrationPlan.Json
