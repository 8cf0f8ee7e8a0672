import HydrationPlan.Proofs.Json.Numeral

/-!
# Cutting a written document into tokens

A document that is written on one line is cut into its own tokens again, whatever separator or
bracket follows it.
-/

namespace HydrationPlan.Json

section Text

/-- A character that stands for itself. -/
theorem scanText_char {c : Char} (hquote : c ≠ '"') (hslash : c ≠ '\\') (hlow : ¬ c.toNat < 0x20)
    (s : List Char) : scanText (c :: s) = (scanText s).push (some c) := by
  conv => lhs; unfold scanText
  split
  case h_6 =>
    rename_i he
    cases he
    exact if_neg hlow
  all_goals
    rename_i he
    cases he <;> first | exact absurd rfl hquote | exact absurd rfl hslash

/-- Outside the surrogates a code unit is a character, even if another code unit follows it. -/
theorem scanText_unit {a b c d : Char} {n : Nat} (h : codeUnit? a b c d = some n)
    (hn : n < 0xd800) (s : List Char) :
    scanText ('\\' :: 'u' :: a :: b :: c :: d :: s) = (scanText s).push (unitChar? n) := by
  conv => lhs; unfold scanText
  split
  case h_3 =>
    rename_i he
    cases he
    rw [h]
    exact if_neg (by omega)
  case h_4 =>
    rename_i he
    cases he
    rw [h]
  case h_5 =>
    rename_i hunit he
    cases he
    exact absurd rfl (hunit _ _ _ _ _ rfl)
  case h_6 =>
    rename_i hescape he
    cases he
    exact absurd rfl (hescape _ _ rfl)
  all_goals
    rename_i he
    cases he

theorem hexDigits_eq (n : Fin 0x20) : hexDigits n =
      ['0', '0', Nat.digitChar (n / 16), Nat.digitChar (n % 16)] ∧
    codeUnit? '0' '0' (Nat.digitChar (n / 16)) (Nat.digitChar (n % 16)) = some n.val := by
  revert n
  decide

theorem scanText_escapeChar (c : Char) (s : List Char) :
    scanText (escapeChar c ++ s) = (scanText s).push (some c) := by
  by_cases hshort : c ∈ ['"', '\\', '\x08', '\x0c', '\n', '\r', '\t']
  · simp only [List.mem_cons, List.not_mem_nil, or_false] at hshort
    rcases hshort with rfl | rfl | rfl | rfl | rfl | rfl | rfl <;> rfl
  · simp only [List.mem_cons, List.not_mem_nil, or_false, not_or] at hshort
    obtain ⟨hquote, hslash, hb, hf, hn, hr, ht⟩ := hshort
    unfold escapeChar
    rw [if_neg hquote, if_neg hslash, if_neg hb, if_neg hf, if_neg hn, if_neg hr, if_neg ht]
    split
    · rename_i hlow
      obtain ⟨hdigits, hunit⟩ := hexDigits_eq ⟨c.toNat, hlow⟩
      have hchar : unitChar? c.toNat = some c :=
        (if_neg (by omega)).trans (congrArg some (Char.ofNat_toNat c))
      rw [hdigits]
      exact (scanText_unit hunit (Nat.lt_trans hlow (by decide)) s).trans (by rw [hchar])
    · rename_i hlow
      exact scanText_char hquote hslash hlow s

theorem scanText_literal (s r : List Char) :
    scanText (s.flatMap escapeChar ++ '"' :: r) = some (some s, r) := by
  induction s with
  | nil => rfl
  | cons c s ih =>
    rw [List.flatMap_cons, List.append_assoc, scanText_escapeChar, ih]
    rfl

end Text

section Tokens

theorem tokens_nil : tokens [] = some [] := by
  rw [tokens]

theorem tokens_eq {s r : List Char} {token : Option Token} (h : nextToken s = some (token, r)) :
    tokens s = (tokens r).map (token.toList ++ ·) := by
  cases s with
  | nil => cases h
  | cons c s =>
    rw [tokens]
    split
    · rename_i hnone
      rw [h] at hnone
      cases hnone
    · rename_i hsome
      rw [h] at hsome
      cases hsome
      rfl

theorem tokens_eq_none {s : List Char} (hne : s ≠ []) (h : nextToken s = none) :
    tokens s = none := by
  cases s with
  | nil => exact absurd rfl hne
  | cons c s =>
    rw [tokens]
    split
    · rfl
    · rename_i hsome
      rw [h] at hsome
      cases hsome

theorem tokens_eq_some {c : Char} {s : List Char} {ts : List Token}
    (h : tokens (c :: s) = some ts) : ∃ token r us, nextToken (c :: s) = some (token, r) ∧
      tokens r = some us ∧ ts = token.toList ++ us := by
  rw [tokens] at h
  split at h
  · cases h
  · rename_i token r hnext
    obtain ⟨us, hus, rfl⟩ := Option.map_eq_some_iff.mp h
    exact ⟨token, r, us, hnext, hus, rfl⟩

theorem tokens_text (s : String) (r : List Char) :
    tokens ((textLiteral s).toList ++ r) = (tokens r).map (.text (some s) :: ·) := by
  have hnext : nextToken ((textLiteral s).toList ++ r) = some (some (.text (some s)), r) := by
    rw [textLiteral, String.toList_ofList, List.cons_append, List.append_assoc]
    change (scanText (s.toList.flatMap escapeChar ++ '"' :: r)).map _ = _
    rw [scanText_literal s.toList r, Option.map_some, Option.map_some, String.ofList_toList]
  exact tokens_eq hnext

/-- The text is cut into these tokens, as long as a delimiter follows. -/
def Lexes (s : List Char) (ts : List Token) : Prop :=
  ∀ r, Delimited r → tokens (s ++ r) = (tokens r).map (ts ++ ·)

theorem IsNumeral.lexes {s : List Char} {v : Json} (h : IsNumeral s v) : Lexes s [.plain v] :=
  fun _ hr => tokens_eq (h.nextToken_append hr)

theorem lexes_text (s : String) : Lexes (textLiteral s).toList [.text (some s)] :=
  fun r _ => tokens_text s r

theorem delimited_comma (r : List Char) : Delimited (',' :: r) := by
  rintro c hc
  cases hc
  exact .inl rfl

theorem tokens_cons {c : Char} {token : Token} {r : List Char}
    (h : nextToken (c :: r) = some (some token, r)) :
    tokens (c :: r) = (tokens r).map (token :: ·) :=
  tokens_eq h

theorem lexes_intercalate {α : Type} {write : α → String} {cut : α → List Token} {l : List α}
    (h : ∀ a ∈ l, Lexes (write a).toList (cut a)) :
    Lexes (",".intercalate (l.map write)).toList ([Token.comma].intercalate (l.map cut)) := by
  induction l with
  | nil =>
    intro r _
    exact Option.map_id'.symm
  | cons a l ih =>
    rw [List.forall_mem_cons] at h
    cases l with
    | nil => simpa using h.1
    | cons b l =>
      intro r hr
      have hrest := ih h.2 r hr
      simp only [List.map_cons] at hrest ⊢
      rw [String.intercalate_cons_cons, List.intercalate_cons_cons, String.toList_append,
        String.toList_append, List.append_assoc, List.append_assoc]
      change tokens ((write a).toList ++ ',' :: ((",".intercalate _).toList ++ r)) = _
      rw [h.1 _ (delimited_comma _), tokens_cons rfl, hrest, Option.map_map, Option.map_map]
      congr 1
      funext ts
      simp

theorem lexes_brackets {s : List Char} {ts : List Token} (h : Lexes s ts) {c d : Char}
    {first last : Token} (hfirst : ∀ r, nextToken (c :: r) = some (some first, r))
    (hlast : ∀ r, nextToken (d :: r) = some (some last, r)) (hd : ∀ r, Delimited (d :: r)) :
    Lexes (c :: (s ++ [d])) (first :: (ts ++ [last])) := by
  intro r _
  rw [List.cons_append, tokens_cons (hfirst _), List.append_assoc, List.singleton_append,
    h _ (hd r), tokens_cons (hlast r), Option.map_map, Option.map_map]
  congr 1
  funext us
  simp

mutual

/-- The tokens that a document is written with. -/
def cut : Json → List Token
  | .str s => [.text (some s)]
  | .arr items => .openArray :: ([Token.comma].intercalate (cutItems items) ++ [.closeArray])
  | .obj members =>
    .openObject :: ([Token.comma].intercalate (cutMembers members) ++ [.closeObject])
  | j => [.plain j]

def cutItems : List Json → List (List Token)
  | [] => []
  | j :: rest => cut j :: cutItems rest

def cutMembers : List (String × Json) → List (List Token)
  | [] => []
  | (k, j) :: rest => (.text (some k) :: .colon :: cut j) :: cutMembers rest

end

theorem cutItems_eq_map (items : List Json) : cutItems items = items.map cut := by
  induction items with
  | nil => rfl
  | cons j rest ih => rw [cutItems, ih, List.map_cons]

theorem cutMembers_eq_map (members : List (String × Json)) :
    cutMembers members = members.map fun e => .text (some e.1) :: .colon :: cut e.2 := by
  induction members with
  | nil => rfl
  | cons e rest ih => rw [cutMembers, ih, List.map_cons]

theorem compressItems_eq_map (items : List Json) : compressItems items = items.map compress := by
  induction items with
  | nil => rfl
  | cons j rest ih => rw [compressItems, ih, List.map_cons]

theorem compressMembers_eq_map (members : List (String × Json)) :
    compressMembers members = members.map fun e => textLiteral e.1 ++ ":" ++ compress e.2 := by
  induction members with
  | nil => rfl
  | cons e rest ih => rw [compressMembers, ih, List.map_cons]

theorem lexes_compress {F : Float → Prop}
    (hF : ∀ x, F x → IsNumeral (floatLiteral x).toList (.float x)) {j : Json} (h : j.Printable F) :
    Lexes j.compress.toList (cut j) := by
  induction j using contentInduction with
  | null => exact fun r _ => tokens_eq (s := 'n' :: 'u' :: 'l' :: 'l' :: r) rfl
  | bool b =>
    cases b with
    | false => exact fun r _ => tokens_eq (s := 'f' :: 'a' :: 'l' :: 's' :: 'e' :: r) rfl
    | true => exact fun r _ => tokens_eq (s := 't' :: 'r' :: 'u' :: 'e' :: r) rfl
  | int n => exact (isNumeral_int h.proper).lexes
  | float x => exact (hF x h.proper).lexes
  | str s => exact lexes_text s
  | arr items ih =>
    rw [printable_arr_iff] at h
    have hitems := lexes_intercalate fun j hj => ih j hj (h j hj)
    have hchars : (compress (.arr items)).toList =
        '[' :: ((",".intercalate (items.map compress)).toList ++ [']']) := by
      rw [compress, compressItems_eq_map, String.toList_append, String.toList_append]
      rfl
    rw [hchars, cut, cutItems_eq_map]
    exact lexes_brackets hitems (fun _ => rfl) (fun _ => rfl) (by simp [Delimited])
  | obj members ih =>
    rw [printable_obj_iff] at h
    have hmember : ∀ e ∈ members, Lexes (textLiteral e.1 ++ ":" ++ compress e.2).toList
        (.text (some e.1) :: .colon :: cut e.2) := by
      intro e he r hr
      rw [String.toList_append, String.toList_append, List.append_assoc, List.append_assoc,
        tokens_text]
      change (tokens (':' :: ((compress e.2).toList ++ r))).map _ = _
      rw [tokens_cons rfl, ih e he (h e he) r hr, Option.map_map, Option.map_map]
      rfl
    have hmembers := lexes_intercalate hmember
    have hchars : (compress (.obj members)).toList = '\x7b' ::
        ((",".intercalate (members.map fun e => textLiteral e.1 ++ ":" ++ compress e.2)).toList ++
          ['\x7d']) := by
      rw [compress, compressMembers_eq_map, String.toList_append, String.toList_append]
      rfl
    rw [hchars, cut, cutMembers_eq_map]
    exact lexes_brackets hmembers (fun _ => rfl) (fun _ => rfl) (by simp [Delimited])
  | refused => exact absurd h.held Bool.false_ne_true

end Tokens

end HydrationPlan.Json
