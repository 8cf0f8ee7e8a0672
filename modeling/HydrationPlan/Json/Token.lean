import HydrationPlan.Json.Number
import HydrationPlan.Text.Hex

/-!
# The tokens of a JSON text

A text is cut into brackets, separators, strings and plain values; white space between them is
dropped. A string may be well-formed and yet not stand for a text: half a surrogate pair is no
character.
-/

namespace HydrationPlan.Json

inductive Token
  | openObject
  | closeObject
  | openArray
  | closeArray
  | comma
  | colon
  | text (s : Option String)
  | plain (value : Json)

def codeUnit? (a b c d : Char) : Option Nat := do
  pure (Text.ofDigits 16 [← Text.hexValue? a, ← Text.hexValue? b, ← Text.hexValue? c,
    ← Text.hexValue? d])

def shortEscape? : Char → Option Char
  | '"' => some '"'
  | '\\' => some '\\'
  | '/' => some '/'
  | 'b' => some '\x08'
  | 'f' => some '\x0c'
  | 'n' => some '\n'
  | 'r' => some '\r'
  | 't' => some '\t'
  | _ => none

/-- The character of a code unit outside the surrogates. -/
def unitChar? (n : Nat) : Option Char :=
  if 0xd800 ≤ n ∧ n < 0xe000 then none else some (Char.ofNat n)

/-- The character of a pair of surrogates. -/
def pairChar? (high low : Nat) : Option Char :=
  if 0xd800 ≤ high ∧ high < 0xdc00 ∧ 0xdc00 ≤ low ∧ low < 0xe000 then
    some (Char.ofNat (0x10000 + (high - 0xd800) * 0x400 + (low - 0xdc00)))
  else none

/-- The characters of a string, if they all can be decoded, and what follows the string. -/
abbrev Scan := Option (Option (List Char) × List Char)

def Scan.push (c : Option Char) : Scan → Scan
  | none => none
  | some (cs, rest) => some (c.bind fun c => cs.map (c :: ·), rest)

def scanText : List Char → Scan
  | [] => none
  | '"' :: rest => some (some [], rest)
  | '\\' :: 'u' :: a :: b :: c :: d :: '\\' :: 'u' :: e :: f :: g :: h :: rest =>
    match codeUnit? a b c d with
    | none => none
    | some high =>
      if 0xd800 ≤ high ∧ high < 0xdc00 then
        match codeUnit? e f g h with
        | none => none
        | some low => (scanText rest).push (pairChar? high low)
      else (scanText ('\\' :: 'u' :: e :: f :: g :: h :: rest)).push (unitChar? high)
  | '\\' :: 'u' :: a :: b :: c :: d :: rest =>
    match codeUnit? a b c d with
    | none => none
    | some unit => (scanText rest).push (unitChar? unit)
  | '\\' :: c :: rest =>
    match shortEscape? c with
    | none => none
    | some c => (scanText rest).push (some c)
  | c :: rest => if c.toNat < 0x20 then none else (scanText rest).push (some c)

theorem Scan.push_eq_some {c : Option Char} {scan : Scan} {p : Option (List Char) × List Char}
    (h : scan.push c = some p) : ∃ cs, scan = some (cs, p.2) := by
  cases scan with
  | none => cases h
  | some q =>
    cases h
    exact ⟨q.1, rfl⟩

theorem length_of_scanText {s : List Char} {p : Option (List Char) × List Char}
    (h : scanText s = some p) : p.2.length < s.length := by
  fun_induction scanText s generalizing p
  case case2 =>
    cases h
    simp
  case case5 ih | case6 ih | case8 ih | case10 ih | case12 ih =>
    obtain ⟨cs, hcs⟩ := Scan.push_eq_some h
    have hrest := ih hcs
    simp only [List.length_cons] at hrest ⊢
    omega
  all_goals cases h

def scanFraction : List Char → Option (List Char × List Char)
  | '.' :: rest =>
    let digits := rest.takeWhile Char.isDigit
    if digits.isEmpty then none else some (digits, rest.dropWhile Char.isDigit)
  | s => some ([], s)

def exponentDigits? (negative : Bool) (s : List Char) : Option (Option Int × List Char) :=
  let digits := s.takeWhile Char.isDigit
  if digits.isEmpty then none
  else
    let n : Int := digits.foldl (fun n c => n * 10 + digitValue c) 0
    some (some (if negative then -n else n), s.dropWhile Char.isDigit)

/-- The exponent after `e`, if there is one. -/
def scanExponent : List Char → Option (Option Int × List Char)
  | 'e' :: rest | 'E' :: rest =>
    match rest with
    | '-' :: rest => exponentDigits? true rest
    | '+' :: rest => exponentDigits? false rest
    | rest => exponentDigits? false rest
  | s => some (none, s)

/-- An unsigned number. Only the number zero begins with the digit zero. -/
def scanNumber (negative : Bool) (s : List Char) : Option (Json × List Char) :=
  let whole := s.takeWhile Char.isDigit
  if whole.isEmpty || (whole.head? == some '0' && 1 < whole.length) then none
  else do
    let (fraction, rest) ← scanFraction (s.dropWhile Char.isDigit)
    let (exponent, rest) ← scanExponent rest
    pure (number negative whole fraction exponent, rest)

/-- One token and what follows it; none for white space. -/
def nextToken : List Char → Option (Option Token × List Char)
  | [] => none
  | '\x7b' :: rest => some (some .openObject, rest)
  | '\x7d' :: rest => some (some .closeObject, rest)
  | '[' :: rest => some (some .openArray, rest)
  | ']' :: rest => some (some .closeArray, rest)
  | ',' :: rest => some (some .comma, rest)
  | ':' :: rest => some (some .colon, rest)
  | '"' :: rest => (scanText rest).map fun p => (some (.text (p.1.map String.ofList)), p.2)
  | 't' :: 'r' :: 'u' :: 'e' :: rest => some (some (.plain (.bool true)), rest)
  | 'f' :: 'a' :: 'l' :: 's' :: 'e' :: rest => some (some (.plain (.bool false)), rest)
  | 'n' :: 'u' :: 'l' :: 'l' :: rest => some (some (.plain .null), rest)
  | '-' :: rest => (scanNumber true rest).map fun p => (some (.plain p.1), p.2)
  | c :: rest =>
    if c = ' ' ∨ c = '\n' ∨ c = '\r' ∨ c = '\t' then some (none, rest)
    else (scanNumber false (c :: rest)).map fun p => (some (.plain p.1), p.2)

theorem suffix_of_scanFraction {s : List Char} {p : List Char × List Char}
    (h : scanFraction s = some p) : p.2 <:+ s := by
  unfold scanFraction at h
  split at h
  · dsimp only at h
    split at h
    · cases h
    · cases h
      exact (List.dropWhile_suffix _).trans (List.suffix_cons _ _)
  · cases h
    exact List.suffix_rfl

theorem suffix_of_exponentDigits {negative : Bool} {s : List Char} {p : Option Int × List Char}
    (h : exponentDigits? negative s = some p) : p.2 <:+ s := by
  unfold exponentDigits? at h
  dsimp only at h
  split at h
  · cases h
  · cases h
    exact List.dropWhile_suffix _

theorem suffix_of_scanExponent {s : List Char} {p : Option Int × List Char}
    (h : scanExponent s = some p) : p.2 <:+ s := by
  unfold scanExponent at h
  split at h
  case h_3 =>
    cases h
    exact List.suffix_rfl
  all_goals
    refine List.IsSuffix.trans ?_ (List.suffix_cons _ _)
    split at h
    · exact (suffix_of_exponentDigits h).trans (List.suffix_cons _ _)
    · exact (suffix_of_exponentDigits h).trans (List.suffix_cons _ _)
    · exact suffix_of_exponentDigits h

theorem scanNumber_eq_some_iff {negative : Bool} {s : List Char} {p : Json × List Char} :
    scanNumber negative s = some p ↔
      s.takeWhile Char.isDigit ≠ [] ∧
        ((s.takeWhile Char.isDigit).head? = some '0' → (s.takeWhile Char.isDigit).length ≤ 1) ∧
        ∃ f e, scanFraction (s.dropWhile Char.isDigit) = some f ∧ scanExponent f.2 = some e ∧
          (number negative (s.takeWhile Char.isDigit) f.1 e.1, e.2) = p := by
  simp [scanNumber, Option.bind_eq_some_iff, and_assoc]

theorem suffix_of_scanNumber {negative : Bool} {s : List Char} {p : Json × List Char}
    (h : scanNumber negative s = some p) : p.2 <:+ s.dropWhile Char.isDigit := by
  obtain ⟨-, -, f, e, hf, he, rfl⟩ := scanNumber_eq_some_iff.mp h
  exact (suffix_of_scanExponent he).trans (suffix_of_scanFraction hf)

theorem length_of_scanNumber {negative : Bool} {s : List Char} {p : Json × List Char}
    (h : scanNumber negative s = some p) : p.2.length < s.length := by
  have hrest := (suffix_of_scanNumber h).length_le
  have hpos := List.length_pos_iff.mpr (scanNumber_eq_some_iff.mp h).1
  have hparts := congrArg List.length (List.takeWhile_append_dropWhile (p := Char.isDigit) (l := s))
  rw [List.length_append] at hparts
  omega

theorem length_of_nextToken {s : List Char} {p : Option Token × List Char}
    (h : nextToken s = some p) : p.2.length < s.length := by
  unfold nextToken at h
  split at h
  all_goals first
    | (simp at h; done)
    | (cases h; simp only [List.length_cons]; omega)
    | skip
  · obtain ⟨q, hq, rfl⟩ := Option.map_eq_some_iff.1 h
    have := length_of_scanText hq
    simp only [List.length_cons]
    omega
  · obtain ⟨q, hq, rfl⟩ := Option.map_eq_some_iff.1 h
    have := length_of_scanNumber hq
    simp only [List.length_cons]
    omega
  · split at h
    · cases h
      simp
    · obtain ⟨q, hq, rfl⟩ := Option.map_eq_some_iff.1 h
      exact length_of_scanNumber hq

def tokens (s : List Char) : Option (List Token) :=
  match s with
  | [] => some []
  | c :: cs =>
    match h : nextToken (c :: cs) with
    | none => none
    | some (token, rest) =>
      have : rest.length ≤ cs.length := Nat.le_of_lt_succ (length_of_nextToken h)
      (tokens rest).map (token.toList ++ ·)
termination_by s.length

end HydrationPlan.Json
