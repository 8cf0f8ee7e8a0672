import HydrationPlan.Proofs.Notation.Grammar
import Mathlib.Data.List.Chain

/-!
# Texts that are no types

The brackets of a type are opened in front of its name and closed behind it, and each of them stands
next to another part of the type. So a fault is seen where it stands, however deep that is in lists.
-/

namespace HydrationPlan.TypeRef

/-- Two signs that do not follow each other, with white space between them or without. -/
inductive Barred : Char → Char → Prop
  | doubleMark : Barred '!' '!'
  | emptyList : Barred '[' ']'
  | adjacentLists : Barred ']' '['

/-- A text with a fault at some place in it. -/
inductive Misspelled : List Char → Prop
  | barred {a w b : List Char} {c d : Char} (h : Barred c d)
      (hw : ∀ x ∈ w, Text.isBlank x = true) : Misspelled (a ++ c :: (w ++ d :: b))
  | brokenName {a w b : List Char} {c d : Char} (hc : IsWordSign c) (hd : IsWordSign d)
      (hne : w ≠ []) (hw : ∀ x ∈ w, Text.isBlank x = true) : Misspelled (a ++ c :: (w ++ d :: b))
  | unbalanced {s : List Char} (h : s.count '[' ≠ s.count ']') : Misspelled s
  | closedEarly {a b : List Char} (h : a.count '[' < a.count ']') : Misspelled (a ++ b)

theorem isNameRest_of_isBlank {c : Char} (h : Text.isBlank c = true) : isNameRest c = false := by
  refine Bool.eq_false_iff.mpr fun hname => ?_
  rw [isBlank_of_isNameRest hname] at h
  cases h

theorem Margin.mem_ending {mark : Option Text.Blanks} {c : Char} (hc : c ∈ ending mark) :
    c = '!' ∨ Text.isBlank c = true := by
  cases mark with
  | none => cases hc
  | some w => exact (List.mem_cons.mp hc).imp_right (w.property c)

/-! ## Brackets and names -/

/-- A name between the brackets that are opened and those that are closed. -/
structure Parts (front word back : List Char) : Prop where
  opened : ∀ c ∈ front, c = '[' ∨ Text.isBlank c = true
  named : ∀ c ∈ word, isNameRest c = true
  closed : ∀ c ∈ back, c = ']' ∨ c = '!' ∨ Text.isBlank c = true
  balanced : front.count '[' = back.count ']'

section Parts

variable {front word back a b : List Char}

theorem Margin.closed_ending (m : Margin) : ∀ c ∈ m.after.val ++ ending m.mark,
    c = ']' ∨ c = '!' ∨ Text.isBlank c = true :=
  List.forall_mem_append.mpr
    ⟨fun c hc => .inr (.inr (m.after.property c hc)), fun _ hc => .inr (mem_ending hc)⟩

theorem Margin.count_before (m : Margin) : m.before.val.count '[' = 0 := by
  refine List.count_eq_zero.mpr fun hmem => ?_
  cases m.before.property _ hmem

theorem Margin.count_ending (m : Margin) : (m.after.val ++ ending m.mark).count ']' = 0 := by
  refine List.count_eq_zero.mpr fun hmem => ?_
  rcases List.mem_append.mp hmem with hmem | hmem
  · cases m.after.property _ hmem
  · rcases mem_ending hmem with h | h <;> cases h

theorem Phrase.exists_parts (p : Phrase) :
    ∃ front word back, p.chars = front ++ (word ++ back) ∧ Parts front word back := by
  induction p with
  | name m word =>
    refine ⟨m.before.val, word.val, m.after.val ++ Margin.ending m.mark, rfl,
      fun c hc => .inr (m.before.property c hc), word.property.isNameRest, m.closed_ending, ?_⟩
    rw [m.count_before, m.count_ending]
  | list m e ih =>
    obtain ⟨front, word, back, hchars, hparts⟩ := ih
    refine ⟨m.before.val ++ '[' :: front, word,
      back ++ ']' :: (m.after.val ++ Margin.ending m.mark), ?_, ?_, hparts.named, ?_, ?_⟩
    · rw [Phrase.chars, Margin.around, hchars]
      simp
    · rw [List.forall_mem_append, List.forall_mem_cons]
      exact ⟨fun c hc => .inr (m.before.property c hc), .inl rfl, hparts.opened⟩
    · rw [List.forall_mem_append, List.forall_mem_cons]
      exact ⟨hparts.closed, .inl rfl, m.closed_ending⟩
    · rw [List.count_append, List.count_append, List.count_cons_self, List.count_cons_self,
        m.count_before, m.count_ending, hparts.balanced, Nat.zero_add]

/-- Between two signs of the name stand signs of the name alone. -/
theorem Parts.contiguous (h : Parts front word back) {e : Char}
    (hs : front ++ (word ++ back) = a ++ e :: b) (he : isNameRest e = false) :
    (∀ c ∈ a, isNameRest c = false) ∨ ∀ d ∈ b, isNameRest d = false := by
  have hfront : ∀ c ∈ front, isNameRest c = false := by
    intro c hc
    rcases h.opened c hc with rfl | hblank
    · rfl
    · exact isNameRest_of_isBlank hblank
  have hback : ∀ c ∈ back, isNameRest c = false := by
    intro c hc
    rcases h.closed c hc with rfl | rfl | hblank
    · rfl
    · rfl
    · exact isNameRest_of_isBlank hblank
  -- The sign stands in one of the three parts, and it cannot be the one in the middle.
  rcases List.append_eq_append_iff.mp hs with ⟨x, rfl, hx⟩ | ⟨x, rfl, -⟩
  · rcases List.append_eq_append_iff.mp hx with ⟨y, rfl, rfl⟩ | ⟨y, rfl, hy⟩
    · exact .inr fun d hd => hback d (by simp [hd])
    · cases y with
      | nil =>
        obtain rfl : e :: b = back := hy
        exact .inr fun d hd => hback d (List.mem_cons_of_mem e hd)
      | cons f y =>
        obtain ⟨rfl, -⟩ := List.cons.inj hy
        have hname := h.named e (by simp)
        rw [he] at hname
        cases hname
  · exact .inl fun c hc => hfront c (List.mem_append_left x hc)

theorem Parts.counts (h : Parts front word back) :
    front.count ']' = 0 ∧ word.count '[' = 0 ∧ word.count ']' = 0 ∧ back.count '[' = 0 := by
  refine ⟨?_, ?_, ?_, ?_⟩
  all_goals refine List.count_eq_zero.mpr fun hmem => ?_
  · rcases h.opened _ hmem with h | h <;> cases h
  · cases h.named _ hmem
  · cases h.named _ hmem
  · rcases h.closed _ hmem with h | h | h <;> cases h

theorem Parts.count_le (h : Parts front word back) (hs : front ++ (word ++ back) = a ++ b) :
    a.count ']' ≤ a.count '[' := by
  obtain ⟨hfront, -, hword, -⟩ := h.counts
  have hbalanced := h.balanced
  rcases List.append_eq_append_iff.mp hs with ⟨x, rfl, hx⟩ | ⟨x, rfl, -⟩
  · have hcount := congrArg (List.count ']') hx
    simp only [List.count_append] at hcount ⊢
    omega
  · rw [List.count_append] at hfront
    omega

end Parts

/-! ## Signs next to each other -/

def inked (s : List Char) : List Char := s.filter fun c => !Text.isBlank c

/-- What a margin has apart from white space. -/
def Margin.sign (m : Margin) : List Char := if m.mark.isSome then ['!'] else []

/-- Signs that may stand next to each other, of which none is missing at an end. -/
structure Fitted (s : List Char) : Prop where
  chain : s.IsChain fun c d => ¬ Barred c d
  head : ∃ c ∈ s.head?, c ≠ ']'
  last : ∀ c ∈ s.getLast?, c ≠ '['

section Fitted

variable {s t : List Char}

theorem inked_append (s t : List Char) : inked (s ++ t) = inked s ++ inked t :=
  List.filter_append _ _

theorem inked_blanks (h : ∀ c ∈ s, Text.isBlank c = true) : inked s = [] := by
  refine List.filter_eq_nil_iff.mpr fun c hc => ?_
  rw [h c hc]
  exact Bool.false_ne_true

theorem Margin.inked_around (m : Margin) (s : List Char) :
    inked (m.around s) = inked s ++ m.sign := by
  have hending : inked (ending m.mark) = m.sign := by
    unfold Margin.sign
    cases m.mark with
    | none => rfl
    | some w => exact congrArg (List.cons '!') (inked_blanks w.property)
  rw [around, inked_append, inked_append, inked_append, inked_blanks m.before.property,
    inked_blanks m.after.property, hending]
  rfl

theorem Fitted.concat (h : Fitted s) {d : Char} (hjoin : ∀ c ∈ s.getLast?, ¬ Barred c d)
    (hd : d ≠ '[') : Fitted (s ++ [d]) := by
  obtain ⟨c, hc, hne⟩ := h.head
  refine ⟨List.isChain_append.mpr ⟨h.chain, .singleton _, ?_⟩, ⟨c, ?_, hne⟩, ?_⟩
  · intro x hx y hy
    cases hy
    exact hjoin x hx
  · rw [List.head?_append, hc]
    rfl
  · intro x hx
    rw [List.getLast?_concat] at hx
    cases hx
    exact hd

theorem Fitted.append_sign (h : Fitted s) (hlast : ∀ c ∈ s.getLast?, c ≠ '!') (m : Margin) :
    Fitted (s ++ m.sign) := by
  unfold Margin.sign
  cases m.mark with
  | none => rwa [Option.isSome_none, if_neg Bool.false_ne_true, List.append_nil]
  | some w =>
    rw [Option.isSome_some, if_pos rfl]
    refine h.concat (fun c hc hbarred => ?_) (by decide)
    cases hbarred
    exact hlast _ hc rfl

theorem fitted_word (h : IsWord s) : Fitted s := by
  have hname := h.isNameRest
  refine ⟨(List.pairwise_of_forall_mem_list fun c hc d _ hbarred => ?_).isChain, ?_, ?_⟩
  · cases hbarred <;> cases hname _ hc
  · obtain ⟨-, -⟩ := h
    refine ⟨_, rfl, ?_⟩
    rintro rfl
    cases hname _ List.mem_cons_self
  · rintro c hc rfl
    cases hname _ (List.mem_of_mem_getLast? hc)

theorem Fitted.brackets (h : Fitted s) : Fitted ('[' :: (s ++ [']'])) := by
  have hclosed : Fitted (s ++ [']']) := by
    refine h.concat (fun c hc hbarred => ?_) (by decide)
    cases hbarred
    exact h.last _ hc rfl
  obtain ⟨c, hc, hne⟩ := hclosed.head
  refine ⟨List.isChain_cons.mpr ⟨fun x hx hbarred => ?_, hclosed.chain⟩, ⟨'[', rfl, by decide⟩, ?_⟩
  · cases hc.symm.trans hx
    cases hbarred
    exact hne rfl
  · intro x hx
    rw [← List.cons_append, List.getLast?_concat] at hx
    cases hx
    decide

theorem Phrase.fitted_inked (p : Phrase) : Fitted (inked p.chars) := by
  induction p with
  | name m word =>
    have hname := word.property.isNameRest
    have hword : inked word.val = word.val := by
      refine List.filter_eq_self.mpr fun c hc => ?_
      rw [isBlank_of_isNameRest (hname c hc)]
      rfl
    rw [chars, m.inked_around, hword]
    refine (fitted_word word.property).append_sign ?_ m
    rintro c hc rfl
    cases hname _ (List.mem_of_mem_getLast? hc)
  | list m e ih =>
    have hbrackets : inked ('[' :: (e.chars ++ [']'])) = '[' :: (inked e.chars ++ [']']) :=
      congrArg (List.cons '[') (inked_append _ _)
    rw [chars, m.inked_around, hbrackets]
    refine ih.brackets.append_sign ?_ m
    intro c hc
    rw [← List.cons_append, List.getLast?_concat] at hc
    cases hc
    decide

theorem Fitted.not_barred {a w b : List Char} {c d : Char}
    (h : Fitted (inked (a ++ c :: (w ++ d :: b)))) (hw : ∀ x ∈ w, Text.isBlank x = true) :
    ¬ Barred c d := by
  intro hbarred
  have hsigns : inked (c :: (w ++ d :: b)) = c :: d :: inked b := by
    have hrest : inked (w ++ d :: b) = inked (d :: b) := by
      rw [inked_append, inked_blanks hw, List.nil_append]
    cases hbarred <;> exact congrArg (List.cons _) hrest
  have hchain := h.chain
  rw [inked_append, hsigns, List.isChain_append_cons_cons] at hchain
  exact hchain.2.1 hbarred

end Fitted

theorem Phrase.not_misspelled (p : Phrase) : ¬ Misspelled p.chars := by
  obtain ⟨front, word, back, hchars, hparts⟩ := p.exists_parts
  obtain ⟨hfront, hopen, hclose, hback⟩ := hparts.counts
  have hbalanced := hparts.balanced
  have hfitted := p.fitted_inked
  intro h
  generalize p.chars = s at h hchars hfitted
  cases h with
  | barred h hw => exact hfitted.not_barred hw h
  | @brokenName a w b c d hc hd hne hw =>
    obtain ⟨e, w, rfl⟩ := List.exists_cons_of_ne_nil hne
    have hsplit : front ++ (word ++ back) = (a ++ [c]) ++ e :: (w ++ d :: b) := by
      rw [← hchars]
      simp
    rcases hparts.contiguous hsplit (isNameRest_of_isBlank (hw e List.mem_cons_self)) with h | h
    · cases (isNameRest_iff.mpr hc).symm.trans (h c (by simp))
    · cases (isNameRest_iff.mpr hd).symm.trans (h d (by simp))
  | unbalanced h =>
    subst hchars
    simp only [List.count_append] at h
    omega
  | closedEarly h =>
    have hle := hparts.count_le hchars.symm
    omega

/-- The texts that are read as a type are those of the grammar, as the type that they denote there.
A text has one derivation at most, and a text with a fault at any depth is no type. -/
theorem parse_eq_ok_iff_phrase (s : String) :
    (∀ t, parse s = .ok t ↔ ∃ p : Phrase, p.chars = s.toList ∧ p.type = t) ∧
      (∀ p q : Phrase, p.chars = s.toList → q.chars = s.toList → p = q) ∧
      (Misspelled s.toList → ∃ e, parse s = .error e) := by
  refine ⟨fun t => ⟨Phrase.exists_of_ofChars, ?_⟩, fun p q hp hq => ?_, fun h => ?_⟩
  · rintro ⟨p, hp, rfl⟩
    rw [parse, ← hp, p.ofChars_chars]
  · exact Phrase.chars_injective (hp.trans hq.symm)
  · cases hs : parse s with
    | error e => exact ⟨e, rfl⟩
    | ok t =>
      obtain ⟨p, hp, -⟩ := Phrase.exists_of_ofChars hs
      exact absurd (hp ▸ h) p.not_misspelled

example : parse " [ [ID !]] ! " = .ok (list (nullable (list (named "ID")))) := by cbv

example : parse "[[A][B]]" = .error ⟨"A][B", .notAName⟩ := by cbv

end HydrationPlan.TypeRef
