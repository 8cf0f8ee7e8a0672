import HydrationPlan.Proofs.Assignability.Decision

/-!
# What a failed check tells

A mismatch may have been found far below the types that were compared, and it is passed up as it
was found. So it names a pair of types that same-named fields lead to, and a field of that pair that
is itself at fault: a required field that the object lacks, or two types that cannot meet whatever
lies below them.
-/

namespace HydrationPlan

namespace Schema

variable {s : Schema} {c : Config}

/-- Fields of one name lead from an object and an input object to the names of their types. -/
inductive Leads (s : Schema) : String × String → String × String → Prop
  | below {o i : String} {input : InputType} {f : InputValue} {g : Field}
      (hi : s.inputType? i = some input) (hf : f ∈ input.fields.values)
      (hg : s.field? o f.name = some g) : Leads s (o, i) (g.type.namedType, f.type.namedType)

/-- The pairs of names that are met at or below a pair. -/
def LeadsTo (s : Schema) : String × String → String × String → Prop :=
  Relation.ReflTransGen s.Leads

/-- The names differ and cannot meet: they are no enums of which one passes for the other, no object
and input object, and no scalars of which one is coerced to the other. -/
def NamesClash (s : Schema) (c : Config) (x y : String) : Prop :=
  ¬ s.LeafFits c (fun _ _ => True) x y

/-- The wrappers do not fit, or the names below them clash. -/
inductive Clash (s : Schema) (c : Config) (t u : TypeRef) : Prop
  | wrappers (h : ¬ TypeRef.Fits (fun _ _ => True) t u) : Clash s c t u
  | names (h : s.NamesClash c t.namedType u.namedType) : Clash s c t u

/-- What a mismatch says of the types that were compared. -/
inductive Violates (s : Schema) (c : Config) (isBatch : Bool) (kind : SupplyKind)
    (supplied required : TypeRef) : Mismatch → Prop
  | shape (hb : isBatch = true) (hk : kind = .sourceField) (hdepth : required.listDepth ≠ 1) :
      Violates s c isBatch kind supplied required (.invalidBatchIdShape required.text)
  | names (hn : isBatch = true ∨ kind = .sourceField)
      (h : s.NamesClash c supplied.namedType required.namedType) :
      Violates s c isBatch kind supplied required
        (.incompatibleInputType supplied.text required.text)
  | types (hb : isBatch = false) (hk : kind ≠ .sourceField) (h : s.Clash c supplied required) :
      Violates s c isBatch kind supplied required
        (.incompatibleInputType supplied.text required.text)
  | missing {o i : String} {input : InputType} {f : InputValue}
      (hreach : s.LeadsTo (supplied.namedType, required.namedType) (o, i)) (ho : s.isFielded o)
      (hi : s.inputType? i = some input) (hf : f ∈ input.fields.values)
      (hrequired : f.type.isNullable = false) (hdefault : f.defaultValue = none)
      (hnone : s.field? o f.name = none) :
      Violates s c isBatch kind supplied required (.missingInputField o i f.name)
  | field {o i : String} {input : InputType} {f : InputValue} {g : Field}
      (hreach : s.LeadsTo (supplied.namedType, required.namedType) (o, i))
      (hi : s.inputType? i = some input) (hf : f ∈ input.fields.values)
      (hg : s.field? o f.name = some g) (hname : g.name = f.name)
      (h : s.Clash c g.type f.type) :
      Violates s c isBatch kind supplied required (.incompatibleField o f.name i f.name)

end Schema

theorem TypeRef.namedTypes_of_meet? {t u : TypeRef} {x y : String} (h : t.meet? u = some (x, y)) :
    t.namedType = x ∧ u.namedType = y := by
  have hfits : Fits (fun a b => a = x ∧ b = y) t u := fits_iff_meet.mpr ⟨x, y, h, rfl, rfl⟩
  exact hfits.namedTypes

namespace Schema

variable {s : Schema} {c : Config}

theorem namesClash_of_meeting {x y : String} (h : s.meeting c x y = .clashes) :
    s.NamesClash c x y := by
  intro hfits
  rcases (leafFits_iff_meets x y).mp hfits with hm | ⟨⟨p, hm⟩, -⟩
  · simp [hm] at h
  · simp [hm] at h

theorem clash_of_meet?_eq_none {t u : TypeRef} (h : t.meet? u = none) : s.Clash c t u := by
  apply Clash.wrappers
  intro hfits
  obtain ⟨x, y, hm, -⟩ := TypeRef.fits_iff_meet.mp hfits
  simp [hm] at h

theorem clash_of_meeting {t u : TypeRef} {x y : String} (hm : t.meet? u = some (x, y))
    (h : s.meeting c x y = .clashes) : s.Clash c t u := by
  obtain ⟨rfl, rfl⟩ := TypeRef.namedTypes_of_meet? hm
  exact .names (namesClash_of_meeting h)

theorem inputFieldStep_eq_error {p : InputPair} {f : InputValue} {m : Mismatch}
    (h : s.inputFieldStep c p f = some (.error m)) :
    (s.field? p.object f.name = none ∧ f.isOptional = false ∧
        m = .missingInputField p.object p.input.name f.name) ∨
      ∃ g, s.field? p.object f.name = some g ∧ s.Clash c g.type f.type ∧
        m = .incompatibleField p.object g.name p.input.name f.name := by
  unfold inputFieldStep at h
  split at h
  · rename_i hnone
    split at h
    · cases h
    · rename_i hopt
      cases h
      exact .inl ⟨hnone, Bool.not_eq_true _ ▸ hopt, rfl⟩
  · rename_i g hg
    refine .inr ⟨g, hg, ?_⟩
    dsimp only at h
    split at h
    · rename_i hm
      cases h
      exact ⟨clash_of_meet?_eq_none hm, rfl⟩
    · rename_i x y hm
      split at h
      · cases h
      · rename_i hclash
        cases h
        exact ⟨clash_of_meeting hm hclash, rfl⟩
      · cases h

section Compared

variable {isBatch : Bool} {kind : SupplyKind}

theorem comparedNames_of_named (hn : isBatch = true ∨ kind = .sourceField)
    (supplied required : TypeRef) :
    comparedNames isBatch kind supplied required =
      some (supplied.namedType, required.namedType) :=
  if_pos (by simpa using hn)

theorem comparedNames_of_wrapped (hn : ¬ (isBatch = true ∨ kind = .sourceField))
    (supplied required : TypeRef) :
    comparedNames isBatch kind supplied required = supplied.meet? required :=
  if_neg (by simpa using hn)

theorem namedTypes_of_comparedNames {supplied required : TypeRef} {x y : String}
    (h : comparedNames isBatch kind supplied required = some (x, y)) :
    supplied.namedType = x ∧ required.namedType = y := by
  by_cases hn : isBatch = true ∨ kind = .sourceField
  · rw [comparedNames_of_named hn] at h
    cases h
    exact ⟨rfl, rfl⟩
  · rw [comparedNames_of_wrapped hn] at h
    exact TypeRef.namedTypes_of_meet? h

end Compared

/-- The three ways in which the check fails: on a correlation key of the wrong shape, on the types
themselves, and in the walk over what lies below them. -/
theorem checkAssignable_eq_error_cases {isBatch : Bool} {kind : SupplyKind}
    {supplied required : TypeRef} {m : Mismatch}
    (h : s.checkAssignable c isBatch kind supplied required = .error m) :
    (isBatch = true ∧ kind = .sourceField ∧ required.listDepth ≠ 1 ∧
        m = .invalidBatchIdShape required.text) ∨
      (m = .incompatibleInputType supplied.text required.text ∧
        ∀ x y, comparedNames isBatch kind supplied required = some (x, y) →
          s.meeting c x y = .clashes) ∨
      ∃ x y p, comparedNames isBatch kind supplied required = some (x, y) ∧
        s.meeting c x y = .builds p ∧ (s.inputWalk c p).fault = some m := by
  unfold checkAssignable at h
  dsimp only at h
  rw [← comparedNames] at h
  split at h
  · rename_i hshape
    cases h
    simp only [Bool.and_eq_true, beq_iff_eq, bne_iff_ne] at hshape
    exact .inl ⟨hshape.1.1, hshape.1.2, hshape.2, rfl⟩
  · right
    cases hnames : comparedNames isBatch kind supplied required with
    | none =>
      rw [hnames] at h
      cases h
      refine .inl ⟨rfl, fun x y hxy => ?_⟩
      cases hxy
    | some names =>
      obtain ⟨x, y⟩ := names
      rw [hnames] at h
      dsimp only at h
      cases hm : s.meeting c x y with
      | fits =>
        rw [hm] at h
        cases h
      | clashes =>
        rw [hm] at h
        cases h
        refine .inl ⟨rfl, fun x' y' hxy => ?_⟩
        cases hxy
        exact hm
      | builds p =>
        rw [hm] at h
        dsimp only at h
        split at h
        · rename_i fault hfault
          cases h
          exact .inr ⟨x, y, p, rfl, hm, hfault⟩
        · cases h

theorem fault_ne_invalidBatchIdShape {p : InputPair} {text : String} :
    (s.inputWalk c p).fault ≠ some (.invalidBatchIdShape text) := by
  intro h
  rcases Walk.fault_source h with hpending | ⟨q, -, hstep⟩
  · simp at hpending
  · obtain ⟨f, -, hstep⟩ := List.mem_filterMap.mp hstep
    rcases inputFieldStep_eq_error hstep with ⟨-, -, hm⟩ | ⟨g, -, -, hm⟩
    · cases hm
    · cases hm

theorem checkAssignable_eq_invalidBatchIdShape_iff {isBatch : Bool} {kind : SupplyKind}
    {supplied required : TypeRef} {text : String} :
    s.checkAssignable c isBatch kind supplied required = .error (.invalidBatchIdShape text) ↔
      isBatch = true ∧ kind = .sourceField ∧ required.listDepth ≠ 1 ∧ text = required.text := by
  constructor
  · intro h
    rcases checkAssignable_eq_error_cases h with
      ⟨hb, hk, hdepth, hm⟩ | ⟨hm, -⟩ | ⟨x, y, p, -, -, hfault⟩
    · cases hm
      exact ⟨hb, hk, hdepth, rfl⟩
    · cases hm
    · exact absurd hfault fault_ne_invalidBatchIdShape
  · rintro ⟨rfl, rfl, hdepth, rfl⟩
    unfold checkAssignable
    rw [if_pos]
    simpa using hdepth

section Keyed

variable (ho : s.ObjectsKeyed) (hi : s.InputsKeyed)
include ho hi

theorem names_of_meeting {x y : String} {p : InputPair} (h : s.meeting c x y = .builds p) :
    p.object = x ∧ p.input.name = y := by
  obtain ⟨o, i, hx, hy, rfl⟩ := meeting_builds h
  exact ⟨ho.name_eq hx, hi.name_eq hy⟩

theorem leads_of_ok_mem_inputSteps {p q : InputPair} (hp : p.FoundIn s)
    (h : .ok q ∈ s.inputSteps c p) :
    s.Leads (p.object, p.input.name) (q.object, q.input.name) := by
  obtain ⟨f, hf, g, hg, x, y, hnames, hm⟩ := exists_of_ok_mem_inputSteps h
  obtain ⟨hx, hy⟩ := names_of_meeting ho hi hm
  obtain ⟨rfl, rfl⟩ := TypeRef.namedTypes_of_meet? hnames
  rw [hx, hy]
  exact .below hp.input hf hg

/-- The walk stays with the pairs that same-named fields lead to. -/
theorem leadsTo_of_mem_visited {p : InputPair} (hp : p.FoundIn s) :
    ∀ q ∈ (s.inputWalk c p).visited,
      q.FoundIn s ∧ s.LeadsTo (p.object, p.input.name) (q.object, q.input.name) := by
  apply Walk.forall_visited
  · rintro q ⟨hq, hreach⟩ r hr
    have hstep := leads_of_ok_mem_inputSteps ho hi hq hr
    exact ⟨foundIn_of_mem_inputSteps ho hi hr, hreach.tail hstep⟩
  · intro q hq
    rw [List.mem_singleton, Except.ok.injEq] at hq
    subst hq
    exact ⟨hp, .refl⟩

theorem violates_of_fault (hf : s.FieldsKeyed) {isBatch : Bool} {kind : SupplyKind}
    {supplied required : TypeRef} {p : InputPair} {m : Mismatch}
    (hm : s.meeting c supplied.namedType required.namedType = .builds p)
    (h : (s.inputWalk c p).fault = some m) : s.Violates c isBatch kind supplied required m := by
  have hp : p.FoundIn s := foundIn_of_meeting ho hi hm
  obtain ⟨hobject, hinput⟩ := names_of_meeting ho hi hm
  have hvisited := leadsTo_of_mem_visited (c := c) ho hi hp
  rw [hobject, hinput] at hvisited
  rcases Walk.fault_source h with hpending | ⟨q, hq, hstep⟩
  · simp at hpending
  · obtain ⟨hfound, hreach⟩ := hvisited q hq
    obtain ⟨f, hmem, hstep⟩ := List.mem_filterMap.mp hstep
    rcases inputFieldStep_eq_error hstep with ⟨hnone, hopt, rfl⟩ | ⟨g, hg, hclash, rfl⟩
    · rw [InputValue.isOptional, Bool.or_eq_false_iff, Option.isSome_eq_false_iff,
        Option.isNone_iff_eq_none] at hopt
      exact .missing hreach hfound.object hfound.input hmem hopt.1 hopt.2 hnone
    · have hname : g.name = f.name := hf.name_eq hg
      rw [hname]
      exact .field hreach hfound.input hmem hg hname hclash

/-- Every mismatch that the check reports is there: the field that it names is at fault, and so are
the types if it names none. -/
theorem checkAssignable_violates (hf : s.FieldsKeyed) (c : Config) (isBatch : Bool)
    (kind : SupplyKind) (supplied required : TypeRef) :
    (∀ m, s.checkAssignable c isBatch kind supplied required = .error m →
        s.Violates c isBatch kind supplied required m) ∧
      ∀ text, s.checkAssignable c isBatch kind supplied required =
          .error (.invalidBatchIdShape text) ↔
        isBatch = true ∧ kind = .sourceField ∧ required.listDepth ≠ 1 ∧
          text = required.text := by
  refine ⟨fun m h => ?_, fun text => checkAssignable_eq_invalidBatchIdShape_iff⟩
  rcases checkAssignable_eq_error_cases h with
    ⟨hb, hk, hdepth, rfl⟩ | ⟨rfl, hclash⟩ | ⟨x, y, p, hnames, hm, hfault⟩
  · exact .shape hb hk hdepth
  · by_cases hn : isBatch = true ∨ kind = .sourceField
    · have hcompared := comparedNames_of_named hn supplied required
      exact .names hn (namesClash_of_meeting (hclash _ _ hcompared))
    · have hcompared := comparedNames_of_wrapped hn supplied required
      rw [not_or, Bool.not_eq_true] at hn
      refine .types hn.1 hn.2 ?_
      cases hmeet : supplied.meet? required with
      | none => exact clash_of_meet?_eq_none hmeet
      | some names =>
        obtain ⟨x, y⟩ := names
        exact clash_of_meeting hmeet (hclash x y (hcompared.trans hmeet))
  · obtain ⟨rfl, rfl⟩ := namedTypes_of_comparedNames hnames
    exact violates_of_fault ho hi hf hm hfault

end Keyed

/-- Books and their authors lead to each other. The name of an author is no number. -/
def catalogue : Schema := .build [
  .object ((FieldedType.ofName "Book").withField (.ofType "id" (.named "ID"))
    |>.withField (.ofType "author" (.named "Author"))),
  .object ((FieldedType.ofName "Author").withField (.ofType "books" (.list (.named "Book")))
    |>.withField (.ofType "name" (.named "String"))),
  .inputObject ((InputType.ofName "BookInput").withField ⟨"id", none, .named "String", none⟩
    |>.withField ⟨"author", none, .nullable (.named "AuthorInput"), none⟩),
  .inputObject ((InputType.ofName "AuthorInput")
    |>.withField ⟨"books", none, .nullable (.list (.named "BookInput")), none⟩
    |>.withField ⟨"name", none, .named "Int", none⟩)]

/-- The fault lies with the author of a book, and is told as one of authors. -/
theorem catalogue_violates :
    catalogue.ObjectsKeyed ∧ catalogue.InputsKeyed ∧ catalogue.FieldsKeyed ∧
      catalogue.checkAssignable .standard false .fieldArgument (.list (.named "Book"))
        (.nullable (.list (.named "BookInput"))) =
          .error (.incompatibleField "Author" "name" "AuthorInput" "name") ∧
      catalogue.Violates .standard false .fieldArgument (.list (.named "Book"))
        (.nullable (.list (.named "BookInput")))
          (.incompatibleField "Author" "name" "AuthorInput" "name") ∧
      catalogue.checkAssignable .standard true .sourceField (.named "Book") (.named "BookInput") =
        .error (.invalidBatchIdShape "BookInput!") := by
  have ho : catalogue.ObjectsKeyed := by decide +kernel
  have hi : catalogue.InputsKeyed := by decide +kernel
  have hf : catalogue.FieldsKeyed := by decide +kernel
  have hfault : catalogue.checkAssignable .standard false .fieldArgument (.list (.named "Book"))
      (.nullable (.list (.named "BookInput"))) =
        .error (.incompatibleField "Author" "name" "AuthorInput" "name") := by cbv
  obtain ⟨hviolates, -⟩ := checkAssignable_violates ho hi hf .standard false .fieldArgument
    (.list (.named "Book")) (.nullable (.list (.named "BookInput")))
  obtain ⟨-, hshape⟩ := checkAssignable_violates ho hi hf .standard true .sourceField
    (.named "Book") (.named "BookInput")
  exact ⟨ho, hi, hf, hfault, hviolates _ hfault,
    (hshape _).mpr ⟨rfl, rfl, by decide, by decide +kernel⟩⟩

end Schema

end HydrationPlan
