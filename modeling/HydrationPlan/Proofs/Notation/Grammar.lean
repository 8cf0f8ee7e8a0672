import HydrationPlan.TypeRef
import Mathlib.Data.List.Basic
import Mathlib.Data.List.TakeWhile

/-!
# The grammar of types

A text is read by taking off its margins, the white space around it and its mark, until a name is
left. What is read in this way are the texts of a grammar, and a text has one derivation at most:
margins are free of the signs that a name or a list begins or ends with.
-/

namespace HydrationPlan

namespace Text

variable {s w w' x y : List Char}

/-- A run of white space. -/
abbrev Blanks := { w : List Char // ∀ c ∈ w, isBlank c = true }

/-- The text does not begin with white space. -/
def Flush (s : List Char) : Prop := ∀ c ∈ s.head?, isBlank c = false

theorem trimStart_blanks_append (hw : ∀ c ∈ w, isBlank c = true) (s : List Char) :
    trimStart (w ++ s) = trimStart s :=
  List.dropWhile_append_of_pos hw

theorem trimEnd_append_blanks (hw : ∀ c ∈ w, isBlank c = true) (s : List Char) :
    trimEnd (s ++ w) = trimEnd s := by
  rw [trimEnd, trimEnd, List.reverse_append, List.dropWhile_append_of_pos]
  simpa using hw

theorem Flush.trimStart (h : Flush s) : trimStart s = s := by
  cases s with
  | nil => rfl
  | cons c s => rw [Text.trimStart, List.dropWhile_cons_of_neg (by simp [h c rfl])]

theorem Flush.trimEnd (h : Flush s.reverse) : trimEnd s = s := by
  rw [Text.trimEnd, ← Text.trimStart, h.trimStart, List.reverse_reverse]

theorem Flush.takeWhile (h : Flush s) : s.takeWhile isBlank = [] := by
  cases s with
  | nil => rfl
  | cons c s => rw [List.takeWhile_cons_of_neg (by simp [h c rfl])]

theorem Flush.append (h : Flush s) (hs : s ≠ []) (x : List Char) : Flush (s ++ x) := by
  rwa [Flush, List.head?_append_of_ne_nil _ hs]

/-- White space in front of a text can be told from the text. -/
theorem blanks_append_inj (hw : ∀ c ∈ w, isBlank c = true) (hw' : ∀ c ∈ w', isBlank c = true)
    (hx : Flush x) (hy : Flush y) (h : w ++ x = w' ++ y) : w = w' ∧ x = y := by
  have hblanks : w = w' := by
    have htake := congrArg (List.takeWhile isBlank) h
    rwa [List.takeWhile_append_of_pos hw, List.takeWhile_append_of_pos hw', hx.takeWhile,
      hy.takeWhile, List.append_nil, List.append_nil] at htake
  subst hblanks
  exact ⟨rfl, List.append_cancel_left h⟩

theorem exists_trimStart (s : List Char) : ∃ w : Blanks, w.val ++ trimStart s = s :=
  ⟨⟨s.takeWhile isBlank, fun _ => List.mem_takeWhile_imp⟩, List.takeWhile_append_dropWhile⟩

theorem exists_trimEnd (s : List Char) : ∃ w : Blanks, trimEnd s ++ w.val = s := by
  obtain ⟨w, hw⟩ := exists_trimStart s.reverse
  refine ⟨⟨w.val.reverse, fun c hc => w.property c (List.mem_reverse.mp hc)⟩, ?_⟩
  rw [trimEnd, ← trimStart, ← List.reverse_append, hw, List.reverse_reverse]

end Text

namespace TypeRef

open Text (Blanks Flush)

/-! ## Names -/

def IsLetter (c : Char) : Prop := 'A' ≤ c ∧ c ≤ 'Z' ∨ 'a' ≤ c ∧ c ≤ 'z'

def IsDigit (c : Char) : Prop := '0' ≤ c ∧ c ≤ '9'

def IsWordSign (c : Char) : Prop := (IsLetter c ∨ IsDigit c) ∨ c = '_'

/-- Letters, digits and underscores of which the first is no digit. -/
inductive IsWord : List Char → Prop
  | intro {c : Char} {cs : List Char} (hc : IsLetter c ∨ c = '_')
      (hcs : ∀ d ∈ cs, IsWordSign d) : IsWord (c :: cs)

theorem isNameStart_iff {c : Char} : isNameStart c = true ↔ IsLetter c ∨ c = '_' := by
  unfold isNameStart Char.isAlpha Char.isUpper Char.isLower
  simp [IsLetter, Char.le_def]

theorem isNameRest_iff {c : Char} : isNameRest c = true ↔ IsWordSign c := by
  unfold isNameRest Char.isAlphanum Char.isAlpha Char.isUpper Char.isLower Char.isDigit
  simp [IsWordSign, IsLetter, IsDigit, Char.le_def]

theorem isName_iff {s : List Char} : isName s = true ↔ IsWord s := by
  cases s with
  | nil => exact iff_of_false Bool.false_ne_true nofun
  | cons c cs =>
    rw [isName, Bool.and_eq_true, List.all_eq_true, isNameStart_iff]
    simp only [isNameRest_iff]
    constructor
    · exact fun h => .intro h.1 h.2
    · rintro ⟨hc, hcs⟩
      exact ⟨hc, hcs⟩

theorem not_isWord_bracket {s : List Char} : ¬ IsWord ('[' :: s) :=
  mt isName_iff.mpr Bool.false_ne_true

theorem isBlank_of_isNameRest {c : Char} (h : isNameRest c = true) : Text.isBlank c = false := by
  have hchar : (0x30 ≤ c.toNat ∧ c.toNat ≤ 0x39) ∨ 0x41 ≤ c.toNat ∧ c.toNat ≤ 0x7a := by
    rcases isNameRest_iff.mp h with ((h | h) | h) | rfl
    · exact .inr ⟨h.1, Nat.le_trans h.2 (by decide)⟩
    · exact .inr ⟨Nat.le_trans (by decide) h.1, h.2⟩
    · exact .inl h
    · exact .inr (by decide)
  simp only [Text.isBlank, Bool.or_eq_false_iff, Bool.and_eq_false_iff, decide_eq_false_iff_not,
    beq_eq_false_iff_ne]
  omega

theorem IsWord.isNameRest {s : List Char} (h : IsWord s) : ∀ c ∈ s, isNameRest c = true := by
  obtain ⟨hc, hcs⟩ := h
  simp only [isNameRest_iff]
  exact List.forall_mem_cons.mpr ⟨hc.imp_left .inl, hcs⟩

/-! ## Margins -/

/-- A text without margins: no white space at its ends and no mark at its end. -/
structure Solid (s : List Char) : Prop where
  nonempty : s ≠ []
  flush : Flush s
  last : ∀ c ∈ s.getLast?, Text.isBlank c = false ∧ c ≠ '!'

/-- What stands around the name or the list of a type, where `mark` is the white space that follows
a mark. -/
structure Margin where
  before : Blanks
  after : Blanks
  mark : Option Blanks

namespace Margin

variable {m m' : Margin} {s s' : List Char}

def ending : Option Blanks → List Char
  | none => []
  | some w => '!' :: w.val

def around (m : Margin) (s : List Char) : List Char :=
  m.before.val ++ (s ++ (m.after.val ++ ending m.mark))

/-- A type is nullable unless it is marked. -/
def type (m : Margin) (t : TypeRef) : TypeRef := if m.mark.isSome then t else nullable t

theorem flush_ending (mark : Option Blanks) : Flush (ending mark) := by
  cases mark with
  | none => nofun
  | some w =>
    intro c hc
    cases hc
    decide

theorem ending_injective {mark mark' : Option Blanks} (h : ending mark = ending mark') :
    mark = mark' := by
  cases mark with
  | none =>
    cases mark' with
    | none => rfl
    | some _ => cases h
  | some w =>
    cases mark' with
    | none => cases h
    | some w' => exact congrArg some (Subtype.ext (List.cons.inj h).2)

end Margin

theorem Solid.flush_reverse {s : List Char} (h : Solid s) : Flush s.reverse := by
  intro c hc
  rw [List.head?_reverse] at hc
  exact (h.last c hc).1

section Solid

variable {s s' : List Char}

theorem Solid.trimEnd_after (h : Solid s) (w : Blanks) : Text.trimEnd (s ++ w.val) = s := by
  rw [Text.trimEnd_append_blanks w.property, h.flush_reverse.trimEnd]

theorem Solid.trim_around (h : Solid s) (m : Margin) :
    Text.trim (m.around s) = match m.mark with
      | none => s
      | some _ => s ++ m.after.val ++ ['!'] := by
  have hflush : Flush (s ++ (m.after.val ++ Margin.ending m.mark)) := h.flush.append h.nonempty _
  rw [Text.trim, Margin.around, Text.trimStart_blanks_append m.before.property, hflush.trimStart]
  cases m.mark with
  | none => rw [Margin.ending, List.append_nil, h.trimEnd_after]
  | some w =>
    have hmark : Flush (s ++ m.after.val ++ ['!']).reverse := by
      rw [List.reverse_concat]
      intro c hc
      cases hc
      decide
    have hsplit : s ++ (m.after.val ++ '!' :: w.val) = (s ++ m.after.val ++ ['!']) ++ w.val := by
      simp
    rw [Margin.ending, hsplit, Text.trimEnd_append_blanks w.property, hmark.trimEnd]

theorem Solid.trim_around_ne_nil (h : Solid s) (m : Margin) : Text.trim (m.around s) ≠ [] := by
  rw [h.trim_around]
  cases m.mark with
  | none => exact h.nonempty
  | some _ => exact List.concat_ne_nil _ _

theorem Solid.stripMark_around (h : Solid s) (m : Margin) :
    stripMark (m.around s) = (s, m.mark.isSome) := by
  rw [stripMark, h.trim_around]
  cases m.mark with
  | none => exact if_neg fun hc => (h.last '!' hc).2 rfl
  | some _ =>
    rw [if_pos List.getLast?_concat, List.dropLast_concat, h.trimEnd_after]
    rfl

/-- Without its margins a text is what is left of it, and the margins are known too. -/
theorem around_injective (h : Solid s) (h' : Solid s') {m m' : Margin}
    (heq : m.around s = m'.around s') : m = m' ∧ s = s' := by
  have hs : s = s' := by
    have hstrip := congrArg stripMark heq
    rw [h.stripMark_around, h'.stripMark_around] at hstrip
    exact congrArg Prod.fst hstrip
  subst hs
  obtain ⟨hbefore, hrest⟩ := Text.blanks_append_inj m.before.property m'.before.property
    (h.flush.append h.nonempty _) (h.flush.append h.nonempty _) heq
  obtain ⟨hafter, hending⟩ := Text.blanks_append_inj m.after.property m'.after.property
    (Margin.flush_ending _) (Margin.flush_ending _) (List.append_cancel_left hrest)
  obtain ⟨before, after, mark⟩ := m
  obtain ⟨before', after', mark'⟩ := m'
  cases Subtype.ext hbefore
  cases Subtype.ext hafter
  cases Margin.ending_injective hending
  exact ⟨rfl, rfl⟩

end Solid

theorem exists_margin (s : List Char) :
    ∃ m : Margin, m.around (stripMark s).1 = s ∧ m.mark.isSome = (stripMark s).2 := by
  obtain ⟨before, hbefore⟩ := Text.exists_trimStart s
  obtain ⟨after, hafter⟩ := Text.exists_trimEnd (Text.trimStart s)
  rw [← Text.trim] at hafter
  unfold stripMark
  dsimp only
  split
  · rename_i hmark
    obtain ⟨inner, hinner⟩ := Text.exists_trimEnd (Text.trim s).dropLast
    have hbody : (Text.trim s).dropLast ++ ['!'] = Text.trim s :=
      List.dropLast_append_getLast? _ hmark
    refine ⟨⟨before, inner, some after⟩, ?_, rfl⟩
    generalize Text.trimEnd (Text.trim s).dropLast = body at hinner ⊢
    calc before.val ++ (body ++ (inner.val ++ '!' :: after.val))
        = before.val ++ ((body ++ inner.val) ++ ['!'] ++ after.val) := by simp
      _ = s := by rw [hinner, hbody, hafter, hbefore]
  · refine ⟨⟨before, after, none⟩, ?_, rfl⟩
    rw [Margin.around, Margin.ending, List.append_nil, hafter, hbefore]

/-! ## Derivations -/

/-- The derivations of `T ::= W B W | W B W '!' W` with `B ::= Name | '[' T ']'`, where `W` is white
space. The margin tells which form `T` has, the constructor tells that of `B`. -/
inductive Phrase
  | name (margin : Margin) (word : { s : List Char // IsWord s })
  | list (margin : Margin) (element : Phrase)

namespace Phrase

def chars : Phrase → List Char
  | name m word => m.around word.val
  | list m e => m.around ('[' :: (e.chars ++ [']']))

/-- The type that the text denotes. -/
def type : Phrase → TypeRef
  | name m word => m.type (named (String.ofList word.val))
  | list m e => m.type (TypeRef.list e.type)

end Phrase

theorem solid_word {s : List Char} (h : IsWord s) : Solid s := by
  have hrest := h.isNameRest
  refine ⟨?_, ?_, ?_⟩
  · rintro rfl
    cases h
  · exact fun c hc => isBlank_of_isNameRest (hrest c (List.mem_of_mem_head? hc))
  · intro c hc
    have hc := hrest c (List.mem_of_mem_getLast? hc)
    refine ⟨isBlank_of_isNameRest hc, ?_⟩
    rintro rfl
    cases hc

theorem solid_brackets (s : List Char) : Solid ('[' :: (s ++ [']'])) where
  nonempty := List.cons_ne_nil _ _
  flush c hc := by
    cases hc
    decide
  last c hc := by
    rw [← List.cons_append, List.getLast?_concat] at hc
    cases hc
    decide

theorem ofChars_word {s : List Char} (h : IsWord s) (m : Margin) :
    ofChars (m.around s) = .ok (m.type (named (String.ofList s))) := by
  have hs : Solid s := solid_word h
  unfold ofChars
  rw [if_neg (hs.trim_around_ne_nil m)]
  dsimp only
  split
  · rename_i rest hrest
    rw [hs.stripMark_around] at hrest
    subst hrest
    cases isName_iff.mpr h
  · rw [hs.stripMark_around]
    exact if_pos (isName_iff.mpr h)

theorem ofChars_brackets {s : List Char} {e : TypeRef} (h : ofChars s = .ok e) (m : Margin) :
    ofChars (m.around ('[' :: (s ++ [']']))) = .ok (m.type (list e)) := by
  have hs : Solid ('[' :: (s ++ [']'])) := solid_brackets s
  unfold ofChars
  rw [if_neg (hs.trim_around_ne_nil m)]
  dsimp only
  split
  · rename_i rest hrest
    rw [hs.stripMark_around] at hrest
    cases hrest
    rw [if_pos List.getLast?_concat, List.dropLast_concat, h, hs.stripMark_around]
    rfl
  · rename_i hbracket
    exact absurd (congrArg Prod.fst (hs.stripMark_around m)) (hbracket _)

namespace Phrase

theorem ofChars_chars (p : Phrase) : ofChars p.chars = .ok p.type := by
  induction p with
  | name m word => exact ofChars_word word.property m
  | list m e ih => exact ofChars_brackets ih m

theorem exists_of_ofChars {s : List Char} {t : TypeRef} (h : ofChars s = .ok t) :
    ∃ p : Phrase, p.chars = s ∧ p.type = t := by
  fun_induction ofChars s generalizing t
  case case2 s _ _ rest hrest _ hlast e he ih =>
    cases h
    obtain ⟨p, hp, rfl⟩ := ih he
    obtain ⟨m, haround, hmark⟩ := exists_margin s
    have hbrackets : '[' :: (p.chars ++ [']']) = (stripMark s).1 := by
      rw [hp, hrest, List.dropLast_append_getLast? _ hlast]
    refine ⟨list m p, ?_, ?_⟩
    · rw [chars, hbrackets, haround]
    · rw [type, Margin.type, hmark]
      rfl
  case case5 s _ _ _ hname =>
    cases h
    obtain ⟨m, haround, hmark⟩ := exists_margin s
    refine ⟨name m ⟨_, isName_iff.mp hname⟩, haround, ?_⟩
    rw [type, Margin.type, hmark]
    rfl
  all_goals cases h

theorem chars_injective {p q : Phrase} (h : p.chars = q.chars) : p = q := by
  induction p generalizing q with
  | name m word =>
    cases q with
    | name m' word' =>
      obtain ⟨rfl, hword⟩ :=
        around_injective (solid_word word.property) (solid_word word'.property) h
      cases Subtype.ext hword
      rfl
    | list m' e' =>
      obtain ⟨-, hword⟩ := around_injective (solid_word word.property) (solid_brackets _) h
      exact absurd (hword ▸ word.property) not_isWord_bracket
  | list m e ih =>
    cases q with
    | name m' word' =>
      obtain ⟨-, hword⟩ := around_injective (solid_brackets _) (solid_word word'.property) h
      exact absurd (hword ▸ word'.property) not_isWord_bracket
    | list m' e' =>
      obtain ⟨rfl, hinner⟩ := around_injective (solid_brackets _) (solid_brackets _) h
      obtain rfl := ih (List.append_cancel_right (List.cons.inj hinner).2)
      rfl

end Phrase

end TypeRef

end HydrationPlan
