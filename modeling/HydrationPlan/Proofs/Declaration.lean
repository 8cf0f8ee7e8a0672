import HydrationPlan.Declaration.Lowering
import HydrationPlan.Proofs.Checked
import HydrationPlan.Proofs.Path.Text

/-!
# Directives regained from their declarations

A declaration says all that its directive says. Each supply is written by one literal only, so that
the directive can be printed from the declaration, with its arguments in order. Lowering fails on
broken paths and on strings that begin as a reference and do not go on as one.
-/

namespace HydrationPlan

namespace Literal

/-- A string that begins as a reference. -/
inductive IsMarked : Literal → Prop
  | source (rest : String) : IsMarked (.string ("$source." ++ rest))
  | argument (rest : String) : IsMarked (.string ("$argument." ++ rest))

/-- A string that begins as a reference and refers to nothing. -/
inductive IsBroken : Literal → Prop
  | source {rest : String} (h : Path.IsBroken rest) : IsBroken (.string ("$source." ++ rest))
  | argument {rest : String} (hall : rest ≠ "*") (h : rest = "" ∨ '.' ∈ rest.toList) :
      IsBroken (.string ("$argument." ++ rest))

/-- What a literal stands for as the value of an argument. -/
inductive Denotes : Literal → Supply → Prop
  | sourceField {path : Path} (h : path.IsDotted) :
      Denotes (.string ("$source." ++ path.text)) (.sourceField path)
  | fieldArgument {name : String} (hall : name ≠ "*") (hname : name ≠ "")
      (hdot : '.' ∉ name.toList) :
      Denotes (.string ("$argument." ++ name)) (.fieldArgument name)
  | remainingArguments : Denotes (.string "$argument.*") .remainingArguments
  | static {value : Literal} (h : ¬ value.IsMarked) : Denotes value (.static value)

end Literal

/-- The literal by which a directive writes the supply. -/
def Supply.literal : Supply → Literal
  | sourceField path => .string ("$source." ++ path.text)
  | fieldArgument name => .string ("$argument." ++ name)
  | remainingArguments => .string "$argument.*"
  | static value => value

/-- The directive that lowers to the declaration. -/
def Declaration.directive (d : Declaration) : Hydrated where
  service := d.service
  field := d.backingPath.text
  arguments := d.arguments.map fun a => ⟨a.name, a.supply.literal⟩
  identifiedBy := d.identifiedBy
  inputIdentifiedBy := d.inputIdentifiedBy
  indexed := d.indexed
  batchSize := d.batchSize
  timeout := d.timeoutMillis
  condition := d.condition

theorem Literal.Denotes.literal_eq {v : Literal} {s : Supply} (h : v.Denotes s) :
    s.literal = v := by
  cases h <;> rfl

theorem afterMark?_eq_some_iff {mark text rest : String} :
    afterMark? mark text = some rest ↔ text = mark ++ rest := by
  rw [afterMark?, Option.map_eq_some_iff]
  simp only [List.isPrefixOf?_eq_some_iff_append_eq]
  constructor
  · rintro ⟨cs, hcs, rfl⟩
    rw [← String.toList_inj, String.toList_append, String.toList_ofList, hcs]
  · rintro rfl
    exact ⟨rest.toList, String.toList_append.symm, String.ofList_toList⟩

/-- The marks differ in their second sign. -/
theorem source_ne_argument (a b : String) : "$source." ++ a ≠ "$argument." ++ b := by
  intro h
  have hchars := congrArg (fun t => t.toList[1]?) h
  simp [String.toList_append] at hchars

theorem afterMark?_source_argument (rest : String) :
    afterMark? sourceMark ("$argument." ++ rest) = none := by
  apply Option.eq_none_iff_forall_ne_some.mpr
  intro a ha
  exact source_ne_argument a rest (afterMark?_eq_some_iff.mp ha).symm

namespace Supply

theorem ofText_source (rest : String) :
    ofText ("$source." ++ rest) =
      ((Path.parse rest).mapError Path.Error.message).map sourceField := by
  have hmark : afterMark? sourceMark ("$source." ++ rest) = some rest :=
    afterMark?_eq_some_iff.mpr rfl
  rw [ofText, hmark]

theorem ofText_argument_all : ofText "$argument.*" = .ok .remainingArguments := by
  have hmark : afterMark? sourceMark "$argument.*" = none := afterMark?_source_argument "*"
  rw [ofText, hmark]
  exact if_pos rfl

theorem ofText_argument {rest : String} (hall : rest ≠ "*") :
    ofText ("$argument." ++ rest) =
      if rest = "" ∨ '.' ∈ rest.toList then .error "expected `$argument.<name>`"
      else .ok (.fieldArgument rest) := by
  have hmark : afterMark? argumentMark ("$argument." ++ rest) = some rest :=
    afterMark?_eq_some_iff.mpr rfl
  have hne : "$argument." ++ rest ≠ remainingMark := by
    intro h
    exact hall ((String.append_right_inj _).mp h)
  rw [ofText, afterMark?_source_argument]
  simp only [if_neg hne, hmark]
  simp

theorem ofLiteral_of_not_isMarked {v : Literal} (h : ¬ v.IsMarked) :
    ofLiteral v = .ok (.static v) := by
  unfold ofLiteral
  split
  · rename_i text
    have hsource : afterMark? sourceMark text = none := by
      apply Option.eq_none_iff_forall_ne_some.mpr
      intro rest hrest
      rw [afterMark?_eq_some_iff.mp hrest] at h
      exact h (.source rest)
    have hargument : ∀ rest, text ≠ "$argument." ++ rest := by
      rintro rest rfl
      exact h (.argument rest)
    have hmark : afterMark? argumentMark text = none := by
      apply Option.eq_none_iff_forall_ne_some.mpr
      intro rest hrest
      exact hargument rest (afterMark?_eq_some_iff.mp hrest)
    have hall : text ≠ remainingMark := hargument "*"
    simp only [ofText, hsource, hmark, if_neg hall]
  · rfl

/-- A literal is read as what it denotes. -/
theorem ofLiteral_eq_ok_iff {v : Literal} {s : Supply} : ofLiteral v = .ok s ↔ v.Denotes s := by
  constructor
  · intro h
    by_cases hmarked : v.IsMarked
    · cases hmarked with
      | source rest =>
        rw [ofLiteral, ofText_source] at h
        obtain ⟨path, hpath, rfl⟩ := map_eq_ok_iff.mp h
        rw [mapError_eq_ok_iff] at hpath
        obtain ⟨rfl, hdotted⟩ := Path.parse_eq_ok_iff.mp hpath
        exact .sourceField hdotted
      | argument rest =>
        by_cases hall : rest = "*"
        · subst hall
          have hread : ofLiteral (.string ("$argument." ++ "*")) = .ok .remainingArguments :=
            ofText_argument_all
          rw [hread] at h
          cases h
          exact .remainingArguments
        · rw [ofLiteral, ofText_argument hall] at h
          split at h
          · cases h
          · rename_i hrest
            rw [not_or] at hrest
            cases h
            exact .fieldArgument hall hrest.1 hrest.2
    · rw [ofLiteral_of_not_isMarked hmarked] at h
      cases h
      exact .static hmarked
  · intro h
    cases h with
    | @sourceField path hdotted =>
      rw [ofLiteral, ofText_source, Path.parse_eq_ok_iff.mpr ⟨rfl, hdotted⟩]
      rfl
    | fieldArgument hall hname hdot =>
      rw [ofLiteral, ofText_argument hall, if_neg (not_or.mpr ⟨hname, hdot⟩)]
    | remainingArguments => exact ofText_argument_all
    | static hmarked => exact ofLiteral_of_not_isMarked hmarked

theorem ofLiteral_isOk_iff {v : Literal} : (∃ s, ofLiteral v = .ok s) ↔ ¬ v.IsBroken := by
  constructor
  · rintro ⟨s, h⟩ hbroken
    cases hbroken with
    | source hrest =>
      rw [ofLiteral, ofText_source] at h
      obtain ⟨path, hpath, -⟩ := map_eq_ok_iff.mp h
      rw [mapError_eq_ok_iff] at hpath
      exact Path.parse_isOk_iff.mp ⟨path, hpath⟩ hrest
    | argument hall hrest =>
      rw [ofLiteral, ofText_argument hall, if_pos hrest] at h
      cases h
  · intro hwhole
    simp only [ofLiteral_eq_ok_iff]
    by_cases hmarked : v.IsMarked
    · cases hmarked with
      | source rest =>
        obtain ⟨path, hpath⟩ := Path.parse_isOk_iff.mpr fun hrest => hwhole (.source hrest)
        obtain ⟨rfl, hdotted⟩ := Path.parse_eq_ok_iff.mp hpath
        exact ⟨_, .sourceField hdotted⟩
      | argument rest =>
        by_cases hall : rest = "*"
        · subst hall
          exact ⟨_, .remainingArguments⟩
        · have hrest : ¬ (rest = "" ∨ '.' ∈ rest.toList) :=
            fun hrest => hwhole (.argument hall hrest)
          rw [not_or] at hrest
          exact ⟨_, .fieldArgument hall hrest.1 hrest.2⟩
    · exact ⟨_, .static hmarked⟩

end Supply

def ArgumentBinding.Denotes (b : ArgumentBinding) (a : DeclaredArgument) : Prop :=
  a.name = b.name ∧ b.value.Denotes a.supply

theorem DeclaredArgument.ofBinding_eq_ok_iff {b : ArgumentBinding} {a : DeclaredArgument} :
    ofBinding b = .ok a ↔ b.Denotes a := by
  rw [ArgumentBinding.Denotes, ← Supply.ofLiteral_eq_ok_iff, ofBinding]
  cases Supply.ofLiteral b.value with
  | error reason => simp
  | ok supply =>
    cases a
    simp [eq_comm]

theorem DeclaredArgument.ofBinding_isOk_iff {b : ArgumentBinding} :
    (∃ a, ofBinding b = .ok a) ↔ ¬ b.value.IsBroken := by
  rw [← Supply.ofLiteral_isOk_iff]
  simp only [ofBinding_eq_ok_iff, ArgumentBinding.Denotes, Supply.ofLiteral_eq_ok_iff]
  constructor
  · rintro ⟨a, -, ha⟩
    exact ⟨a.supply, ha⟩
  · rintro ⟨s, hs⟩
    exact ⟨⟨b.name, s⟩, rfl, hs⟩

namespace Declaration

theorem backingPath?_eq_ok_iff {service field : String} {p : Path} :
    backingPath? service field = .ok p ↔ p.text = field ∧ p.IsDotted := by
  rw [backingPath?, mapError_eq_ok_iff, Path.parse_eq_ok_iff]

/-- A directive lowers to the declarations that print as it, if these have whole paths and their
arguments denote what they supply. -/
theorem ofHydrated_eq_ok_iff {h : Hydrated} {d : Declaration} :
    ofHydrated h = .ok d ↔ d.directive = h ∧ d.backingPath.IsDotted ∧
      List.Forall₂ ArgumentBinding.Denotes h.arguments d.arguments := by
  simp only [ofHydrated, bind_eq_ok_iff, pure_eq_ok_iff, backingPath?_eq_ok_iff, mapM_eq_ok_iff,
    DeclaredArgument.ofBinding_eq_ok_iff]
  constructor
  · rintro ⟨path, ⟨hpath, hdotted⟩, arguments, harguments, rfl⟩
    refine ⟨?_, hdotted, harguments⟩
    have hbindings : (arguments.map fun a => (⟨a.name, a.supply.literal⟩ : ArgumentBinding)) =
        h.arguments := by
      rw [map_eq_of_forall₂ (f := id) ?_, List.map_id]
      refine harguments.imp ?_
      rintro b a ⟨hname, hdenotes⟩
      rw [hname, hdenotes.literal_eq]
      rfl
    rw [directive, hbindings, hpath]
  · rintro ⟨rfl, hdotted, harguments⟩
    exact ⟨d.backingPath, ⟨rfl, hdotted⟩, d.arguments, harguments, rfl⟩

theorem ofHydrated_isOk_iff {h : Hydrated} :
    (∃ d, ofHydrated h = .ok d) ↔
      ¬ Path.IsBroken h.field ∧ ∀ b ∈ h.arguments, ¬ b.value.IsBroken := by
  have hpath : (∃ p, backingPath? h.service h.field = .ok p) ↔ ¬ Path.IsBroken h.field := by
    simp only [backingPath?, mapError_eq_ok_iff, Path.parse_isOk_iff]
  have harguments : (∃ l, h.arguments.mapM DeclaredArgument.ofBinding = .ok l) ↔
      ∀ b ∈ h.arguments, ¬ b.value.IsBroken := by
    simp only [mapM_eq_ok_iff, exists_forall₂_iff, DeclaredArgument.ofBinding_isOk_iff]
  rw [← hpath, ← harguments]
  simp only [ofHydrated, bind_eq_ok_iff, pure_eq_ok_iff]
  constructor
  · rintro ⟨d, p, hp, l, hl, -⟩
    exact ⟨⟨p, hp⟩, l, hl⟩
  · rintro ⟨⟨p, hp⟩, l, hl⟩
    exact ⟨_, p, hp, l, hl, rfl⟩

/-- Lowering loses nothing of a directive, and refuses those with a broken path or reference. -/
theorem ofHydrated_lossless :
    (∀ h d, ofHydrated h = .ok d →
        d.directive = h ∧ List.Forall₂ ArgumentBinding.Denotes h.arguments d.arguments) ∧
      (∀ h, (∃ r, ofHydrated h = .error r) ↔
        Path.IsBroken h.field ∨ ∃ b ∈ h.arguments, b.value.IsBroken) ∧
      (∀ v : Literal, ¬ v.IsMarked → Supply.ofLiteral v = .ok (.static v)) ∧
      ∀ a b d, ofHydrated a = .ok d → ofHydrated b = .ok d → a = b := by
  have hprints : ∀ h d, ofHydrated h = .ok d →
      d.directive = h ∧ List.Forall₂ ArgumentBinding.Denotes h.arguments d.arguments := by
    intro h d hd
    obtain ⟨hdirective, -, harguments⟩ := ofHydrated_eq_ok_iff.mp hd
    exact ⟨hdirective, harguments⟩
  refine ⟨hprints, ?_, fun v => Supply.ofLiteral_of_not_isMarked, ?_⟩
  · intro h
    have hrefused : (∃ r, ofHydrated h = .error r) ↔ ¬ ∃ d, ofHydrated h = .ok d := by
      cases ofHydrated h <;> simp
    rw [hrefused, ofHydrated_isOk_iff, not_and_or, not_not]
    simp only [not_forall, not_not, exists_prop]
  · intro a b d ha hb
    exact (hprints a d ha).1.symm.trans (hprints b d hb).1

/-- A hydration with an argument of every kind. A name of an enum is no reference, whatever it
looks like, and neither is a string with another dollar sign. -/
def quotedPrices : Hydrated :=
  Hydrated.ofBacking "prices" "market.prices"
    |>.withArgument "ids" (.string "$source.items.id")
    |>.withArgument "currency" (.string "$USD")
    |>.withArgument "order" (.enum "$source.id")
    |>.withArgument "limit" (.string "$argument.first")
    |>.withArgument "filter" (.string "$argument.*")
    |>.withBatchSize 20

theorem quotedPrices_lossless :
    (∃ d, ofHydrated quotedPrices = .ok d ∧
      d.arguments.map (·.supply.kind) =
        [.sourceField, .static, .static, .fieldArgument, .remainingArguments] ∧
      d.directive = quotedPrices ∧ ∀ b, ofHydrated b = .ok d → quotedPrices = b) ∧
    (∃ r, ofHydrated (quotedPrices.withArgument "page" (.string "$argument.a.b")) = .error r) ∧
    ¬ (Literal.enum "$source.id").IsMarked ∧
    Supply.ofLiteral (.enum "$source.id") = .ok (.static (.enum "$source.id")) := by
  obtain ⟨hprints, hrefuses, hstatic, hunique⟩ := ofHydrated_lossless
  have hkinds : (ofHydrated quotedPrices).map (fun d => d.arguments.map (·.supply.kind)) =
      .ok [.sourceField, .static, .static, .fieldArgument, .remainingArguments] := by
    decide +kernel
  obtain ⟨d, hd, hd'⟩ := map_eq_ok_iff.mp hkinds
  refine ⟨⟨d, hd, hd', (hprints _ d hd).1, fun b hb => hunique _ b d hd hb⟩, ?_, nofun,
    hstatic _ nofun⟩
  have hbroken : (Literal.string ("$argument." ++ "a.b")).IsBroken :=
    .argument (by decide) (.inr (by decide))
  have hlast : ⟨"page", .string "$argument.a.b"⟩ ∈
      (quotedPrices.withArgument "page" (.string "$argument.a.b")).arguments :=
    List.mem_append_right _ (List.mem_singleton_self _)
  exact (hrefuses _).mpr (.inr ⟨_, hlast, hbroken⟩)

end Declaration

end HydrationPlan
