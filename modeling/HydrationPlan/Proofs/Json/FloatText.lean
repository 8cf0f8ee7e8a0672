import HydrationPlan.Proofs.Json.Building
import HydrationPlan.Proofs.Json.Lexing

/-!
# Floating-point numbers that are read back

Not every float is read back from its shortest decimal, since the reader rounds step by step. One
that is has been read as a single number, so that it is read back inside of any document.
-/

namespace HydrationPlan.Json

/-- The number is read back as it was written. -/
def ReadsBack (x : Float) : Prop := parse? (floatLiteral x) = some (.float x)

def isNumeralChar (c : Char) : Bool := c.isDigit || c == '.' || c == 'e' || c == '+' || c == '-'

def Numeric (s : List Char) : Prop := ∀ c ∈ s, isNumeralChar c = true

instance (s : List Char) : Decidable (Numeric s) :=
  decidable_of_iff (s.all isNumeralChar = true) List.all_eq_true

theorem numeric_append {s t : List Char} : Numeric (s ++ t) ↔ Numeric s ∧ Numeric t :=
  List.forall_mem_append

theorem numeric_cons {c : Char} {s : List Char} :
    Numeric (c :: s) ↔ isNumeralChar c = true ∧ Numeric s :=
  List.forall_mem_cons

theorem numeric_toDigits (n : Nat) : Numeric (Nat.toDigits 10 n) := by
  intro c hc
  have hdigit : c.isDigit = true := Nat.isDigit_of_mem_toDigits (by decide) (by decide) hc
  simp [isNumeralChar, hdigit]

theorem numeric_replicate (n : Nat) : Numeric (List.replicate n '0') :=
  fun _ hc => List.eq_of_mem_replicate hc ▸ rfl

theorem numeric_int (n : Int) : Numeric (toString n).toList := by
  rw [Int.toString_eq_repr, Int.repr_eq_if]
  split
  · rw [Nat.toList_repr]
    exact numeric_toDigits _
  · rw [String.toList_append, Nat.toList_repr]
    exact numeric_cons.mpr ⟨rfl, numeric_toDigits _⟩

theorem numeric_text (d : Decimal) : Numeric (d.text floatLayout).toList := by
  have hdigits : Numeric (Nat.toDigits 10 d.digits) := numeric_toDigits _
  unfold Decimal.text
  dsimp only
  split
  · split
    · rw [String.toList_append, String.toList_ofList, numeric_append, numeric_append]
      exact ⟨⟨hdigits, numeric_replicate _⟩, by decide⟩
    · split
      · rw [String.toList_ofList, numeric_append, numeric_cons]
        exact ⟨fun c hc => hdigits c (List.mem_of_mem_take hc), rfl,
          fun c hc => hdigits c (List.mem_of_mem_drop hc)⟩
      · rw [String.toList_append, numeric_append]
        refine ⟨by decide, ?_⟩
        rw [String.toList_ofList, numeric_append]
        exact ⟨numeric_replicate _, hdigits⟩
  · have hexponent : ∀ (b : Prop) [Decidable b] (n : Int),
        Numeric ("e" ++ ((if b then floatLayout.plus else "") ++ toString n)).toList := by
      intro b _ n
      rw [String.toList_append, String.toList_append, numeric_append, numeric_append]
      refine ⟨by decide, ?_, numeric_int n⟩
      split <;> decide
    split
    · nofun
    · rename_i c hc
      rw [hc] at hdigits
      rw [String.append_assoc, String.toList_append, String.toList_ofList, numeric_append]
      exact ⟨hdigits, hexponent _ _⟩
    · rename_i c rest _ hc
      rw [hc, numeric_cons] at hdigits
      rw [String.append_assoc, String.toList_append, String.toList_ofList, numeric_append,
        numeric_cons, numeric_cons]
      exact ⟨⟨hdigits.1, rfl, hdigits.2⟩, hexponent _ _⟩

theorem numeric_ofFloat (x : Float) : Numeric (floatLayout.ofFloat x).toList ∨
    floatLayout.ofFloat x ∈ ["NaN", "inf", "-inf"] := by
  have hsign : ∀ (b : Prop) [Decidable b], Numeric (if b then "-" else "").toList := by
    intro b _
    split <;> decide
  unfold Decimal.Layout.ofFloat
  dsimp only
  split
  · exact .inr (by decide)
  · right
    split <;> decide
  · left
    rw [String.toList_append, String.toList_append, numeric_append, numeric_append]
    exact ⟨⟨hsign _, by decide⟩, by decide⟩
  · left
    rw [String.toList_append, numeric_append]
    exact ⟨hsign _, numeric_text _⟩

theorem subset_of_scanNumber {negative : Bool} {s : List Char} {p : Json × List Char}
    (h : scanNumber negative s = some p) : p.2 ⊆ s :=
  ((suffix_of_scanNumber h).trans (List.dropWhile_suffix _)).subset

/-- Among the characters of numbers no token is to be found but numbers. -/
theorem nextToken_numeric {c : Char} {s : List Char} {p : Option Token × List Char}
    (hc : isNumeralChar c = true) (h : nextToken (c :: s) = some p) :
    ∃ v, p.1 = some (.plain v) ∧
      (c.isDigit = true ∧ scanNumber false (c :: s) = some (v, p.2) ∨
        c = '-' ∧ scanNumber true s = some (v, p.2)) := by
  simp only [isNumeralChar, Bool.or_eq_true, beq_iff_eq] at hc
  rcases hc with (((hdigit | rfl) | rfl) | rfl) | rfl
  · rw [nextToken_digit hdigit] at h
    obtain ⟨q, hq, rfl⟩ := Option.map_eq_some_iff.mp h
    exact ⟨q.1, rfl, .inl ⟨hdigit, hq⟩⟩
  · cases h
  · cases h
  · cases h
  · obtain ⟨q, hq, rfl⟩ := Option.map_eq_some_iff.mp h
    exact ⟨q.1, rfl, .inr ⟨rfl, hq⟩⟩

theorem eq_nil_of_tokens {s : List Char} (hs : Numeric s) (h : tokens s = some []) : s = [] := by
  cases s with
  | nil => rfl
  | cons c s =>
    obtain ⟨token, r, us, hnext, -, hts⟩ := tokens_eq_some h
    obtain ⟨v, hv, -⟩ := nextToken_numeric (hs c List.mem_cons_self) hnext
    subst hv
    cases hts

theorem numeric_of_readsBack {x : Float} (h : ReadsBack x) : Numeric (floatLiteral x).toList := by
  unfold floatLiteral
  split
  · rename_i hfinite
    refine (numeric_ofFloat x).resolve_right fun hmem => ?_
    obtain ⟨ts, hts, -⟩ := parse?_eq_some h
    rw [floatLiteral, if_pos hfinite] at hts
    simp only [List.mem_cons, List.not_mem_nil, or_false] at hmem
    rcases hmem with he | he | he
    all_goals
      rw [he, tokens_eq_none (by decide) rfl] at hts
      cases hts
  · rename_i hfinite
    obtain ⟨ts, hts, hbuild⟩ := parse?_eq_some h
    have hnull : tokens ['n', 'u', 'l', 'l'] = some [.plain .null] := by
      rw [tokens_eq rfl, tokens_nil]
      rfl
    rw [floatLiteral, if_neg hfinite] at hts
    cases hnull.symm.trans hts
    cases hbuild

theorem IsNumeral.readsBack {x : Float} (h : IsNumeral (floatLiteral x).toList (.float x)) :
    ReadsBack x := by
  have htokens : tokens (floatLiteral x).toList = some [.plain (.float x)] := by
    have hlexes := h.lexes [] nofun
    rw [List.append_nil, tokens_nil] at hlexes
    exact hlexes
  rw [ReadsBack, parse?, htokens, Option.bind_eq_bind, Option.bind_some, build?_plain,
    build?_finished]

theorem isNumeral_of_readsBack {x : Float} (h : ReadsBack x) :
    IsNumeral (floatLiteral x).toList (.float x) := by
  have hnumeric : Numeric (floatLiteral x).toList := numeric_of_readsBack h
  obtain ⟨ts, hts, hbuild⟩ := parse?_eq_some h
  cases hs : (floatLiteral x).toList with
  | nil =>
    rw [hs, tokens_nil] at hts
    cases hts
    cases hbuild
  | cons c s =>
    rw [hs] at hts hnumeric
    obtain ⟨token, r, us, hnext, hus, rfl⟩ := tokens_eq_some hts
    obtain ⟨v, hv, hscan⟩ := nextToken_numeric (hnumeric c List.mem_cons_self) hnext
    subst hv
    change build? (.plain v :: us) [] (.value false) = _ at hbuild
    rw [build?_plain] at hbuild
    obtain ⟨rfl, rfl⟩ := eq_nil_of_build? hbuild
    have hsubset : r ⊆ c :: s := by
      rcases hscan with ⟨-, hscan⟩ | ⟨-, hscan⟩
      · exact subset_of_scanNumber hscan
      · exact List.subset_cons_of_subset _ (subset_of_scanNumber hscan)
    have hr : r = [] := eq_nil_of_tokens (fun d hd => hnumeric d (hsubset hd)) hus
    subst hr
    rcases hscan with ⟨hdigit, hscan⟩ | ⟨rfl, hscan⟩
    · exact .inl ⟨c, s, rfl, hdigit, hscan⟩
    · exact .inr ⟨s, rfl, hscan⟩

end HydrationPlan.Json
