import HydrationPlan.Proofs.Assignability.Relation
import HydrationPlan.Proofs.Walk

/-!
# The check decides assignability

The walk over pairs trusts a pair that it has met before. A walk without a fault has visited a
relation that supports itself, and a walk with a fault has left every such relation.
-/

namespace HydrationPlan

theorem TypeRef.meet?_of_nullable {t u : TypeRef} {p : String × String}
    (h : (nullable t).meet? u = some p) : t.meet? u = some p := by
  induction u generalizing t with
  | named y => simp [meet?] at h
  | list u _ => simp [meet?] at h
  | nullable u ih =>
    rw [meet?] at h
    cases t with
    | named x => simpa [meet?] using h
    | list t => simpa [meet?] using h
    | nullable t =>
      rw [meet?]
      exact ih h

theorem TypeRef.fits_iff_meet {leaf : String → String → Prop} {t u : TypeRef} :
    Fits leaf t u ↔ ∃ x y, t.meet? u = some (x, y) ∧ leaf x y := by
  constructor
  · intro h
    induction h with
    | named h => exact ⟨_, _, rfl, h⟩
    | list _ ih => simpa only [meet?] using ih
    | nullable _ ih => simpa only [meet?] using ih
    | @intoNullable t u _ ih =>
      obtain ⟨x, y, hm, hl⟩ := ih
      refine ⟨x, y, ?_, hl⟩
      cases t with
      | named z => simpa only [meet?] using hm
      | list t => simpa only [meet?] using hm
      | nullable t =>
        rw [meet?]
        exact meet?_of_nullable hm
  · rintro ⟨x, y, hm, hl⟩
    induction t, u using meet?.induct with
    | case1 t u ih =>
      rw [meet?] at hm
      exact .nullable (ih hm)
    | case2 t u _ ih =>
      refine .intoNullable (ih ?_)
      cases t <;> simp_all [meet?]
    | case3 t u ih =>
      rw [meet?] at hm
      exact .list (ih hm)
    | case4 z w =>
      rw [meet?, Option.some.injEq, Prod.mk.injEq] at hm
      obtain ⟨rfl, rfl⟩ := hm
      exact .named hl
    | case5 t u _ _ _ _ => cases t <;> cases u <;> simp_all [meet?]

namespace Schema

variable {s : Schema} {c : Config} {A : String → String → Prop}

theorem enumType?_of_fielded {x : String} (h : s.isFielded x) : s.enumType? x = none := by
  simp only [isFielded, fielded?] at h
  unfold enumType?
  cases hx : s.type? x with
  | none => rfl
  | some d => cases d <;> simp_all [TypeDefinition.fielded?]

theorem inputType?_of_fielded {x : String} (h : s.isFielded x) : s.inputType? x = none := by
  simp only [isFielded, fielded?] at h
  unfold inputType?
  cases hx : s.type? x with
  | none => rfl
  | some d => cases d <;> simp_all [TypeDefinition.fielded?]

theorem meeting_self (x : String) : s.meeting c x x = .fits := by simp [meeting]

theorem meeting_enums {x y : String} (hxy : x ≠ y) {a b : EnumType}
    (hx : s.enumType? x = some a) (hy : s.enumType? y = some b) :
    s.meeting c x y = if enumFits c x y a b then .fits else .clashes := by
  simp only [meeting, if_neg hxy, hx, hy]

theorem meeting_fielded {x y : String} (hxy : x ≠ y) {o : FieldedType} {i : InputType}
    (hx : s.fielded? x = some o) (hy : s.inputType? y = some i) :
    s.meeting c x y = .builds ⟨o.name, i⟩ := by
  have henum : s.enumType? x = none := enumType?_of_fielded (by simp [isFielded, hx])
  simp only [meeting, if_neg hxy, henum, hx, hy]

theorem meeting_scalars {x y : String} (hxy : x ≠ y)
    (henum : ¬ ((s.enumType? x).isSome ∧ (s.enumType? y).isSome))
    (hbuild : ¬ (s.isFielded x ∧ (s.inputType? y).isSome)) :
    s.meeting c x y =
      if s.isScalar x && s.isScalar y && coercibleScalars.contains (x, y) then .fits
      else .clashes := by
  simp only [meeting, if_neg hxy]
  split
  · rename_i a b hx hy
    exact absurd ⟨by rw [hx]; rfl, by rw [hy]; rfl⟩ henum
  · split
    · rename_i o i hx hy
      exact absurd ⟨by rw [isFielded, hx]; rfl, by rw [hy]; rfl⟩ hbuild
    · rfl

theorem meeting_builds {x y : String} {p : InputPair} (h : s.meeting c x y = .builds p) :
    ∃ o i, s.fielded? x = some o ∧ s.inputType? y = some i ∧ p = ⟨o.name, i⟩ := by
  unfold meeting at h
  split at h
  · cases h
  · split at h
    · split at h <;> cases h
    · split at h
      · rename_i o i ho hi
        cases h
        exact ⟨o, i, ho, hi, rfl⟩
      · split at h <;> cases h

theorem mem_inputKeys {x y : String} {o : FieldedType} {i : InputType}
    (hx : s.fielded? x = some o) (hy : s.inputType? y = some i) :
    (o.name, i.name) ∈ s.inputKeys := by
  obtain ⟨d, hd, ho⟩ := fielded?_eq_some hx
  have hi := inputType?_eq_some hy
  simp only [inputKeys, List.mem_flatMap, List.mem_map, List.mem_filterMap]
  refine ⟨o.name, ⟨d, Table.mem_values_of_mem hd, by rw [ho]; rfl⟩, i.name, ?_, rfl⟩
  exact ⟨.inputObject i, Table.mem_values_of_mem hi, rfl⟩

end Schema

/-- Both parts of the pair are found in the schema under the names that they carry. -/
structure InputPair.FoundIn (s : Schema) (p : InputPair) : Prop where
  object : s.isFielded p.object
  input : s.inputType? p.input.name = some p.input

/-- What is listed has no fault, and its pairs are related. -/
def Listed (A : String → String → Prop) (nodes : List (Except Mismatch InputPair)) : Prop :=
  ∀ n ∈ nodes, ∃ p, n = .ok p ∧ A p.object p.input.name

namespace Schema

variable {s : Schema} {c : Config} {A : String → String → Prop}

theorem key_mem_inputKeys (ho : s.ObjectsKeyed) {p : InputPair} (hp : p.FoundIn s) :
    p.key ∈ s.inputKeys := by
  obtain ⟨o, hx⟩ := Option.isSome_iff_exists.mp hp.object
  have hm := mem_inputKeys hx hp.input
  rwa [ho.name_eq hx] at hm

theorem leafFits_enums_iff {x y : String} (hxy : x ≠ y) {a b : EnumType}
    (hx : s.enumType? x = some a) (hy : s.enumType? y = some b) :
    s.LeafFits c A x y ↔ enumFits c x y a b := by
  have hfits : enumFits c x y a b = true ↔
      c.isEnumOverride x y ∨ ∀ v ∈ a.values, v ∈ b.values := by
    simp [enumFits, EnumType.hasValue]
  rw [hfits]
  constructor
  · intro h
    cases h with
    | same => exact absurd rfl hxy
    | enums hx' hy' h =>
      rw [hx, Option.some.injEq] at hx'
      rw [hy, Option.some.injEq] at hy'
      subst hx' hy'
      exact h
    | builds hx' => simp [enumType?_of_fielded hx'] at hx
    | scalars henum => exact absurd ⟨by rw [hx]; rfl, by rw [hy]; rfl⟩ henum
  · exact .enums hx hy

theorem leafFits_fielded_iff {x y : String} (hxy : x ≠ y) (hx : s.isFielded x)
    (hy : (s.inputType? y).isSome) : s.LeafFits c A x y ↔ A x y := by
  constructor
  · intro h
    cases h with
    | same => exact absurd rfl hxy
    | enums hx' => simp [enumType?_of_fielded hx] at hx'
    | builds _ _ h => exact h
    | scalars _ hbuild => exact absurd ⟨hx, hy⟩ hbuild
  · exact .builds hx hy

theorem leafFits_scalars_iff {x y : String} (hxy : x ≠ y)
    (henum : ¬ ((s.enumType? x).isSome ∧ (s.enumType? y).isSome))
    (hbuild : ¬ (s.isFielded x ∧ (s.inputType? y).isSome)) :
    s.LeafFits c A x y ↔ s.isScalar x ∧ s.isScalar y ∧ (x, y) ∈ coercibleScalars := by
  constructor
  · intro h
    cases h with
    | same => exact absurd rfl hxy
    | enums hx hy => exact absurd ⟨by rw [hx]; rfl, by rw [hy]; rfl⟩ henum
    | builds hx hy => exact absurd ⟨hx, hy⟩ hbuild
    | scalars _ _ hx hy h => exact ⟨hx, hy, h⟩
  · rintro ⟨hx, hy, h⟩
    exact .scalars henum hbuild hx hy h

/-- The relation is asked of the names that meet, whatever names their definitions carry. -/
theorem leafFits_iff_meets (x y : String) :
    s.LeafFits c A x y ↔
      s.meeting c x y = .fits ∨ (∃ p, s.meeting c x y = .builds p) ∧ A x y := by
  by_cases hxy : x = y
  · subst hxy
    simp only [meeting_self, true_or, iff_true]
    exact .same x
  by_cases henum : (s.enumType? x).isSome ∧ (s.enumType? y).isSome
  · obtain ⟨a, hx⟩ := Option.isSome_iff_exists.mp henum.1
    obtain ⟨b, hy⟩ := Option.isSome_iff_exists.mp henum.2
    rw [leafFits_enums_iff hxy hx hy, meeting_enums hxy hx hy]
    split <;> simp_all
  by_cases hbuild : s.isFielded x ∧ (s.inputType? y).isSome
  · obtain ⟨o, hx⟩ := Option.isSome_iff_exists.mp hbuild.1
    obtain ⟨i, hy⟩ := Option.isSome_iff_exists.mp hbuild.2
    rw [leafFits_fielded_iff hxy hbuild.1 hbuild.2, meeting_fielded hxy hx hy]
    simp
  · rw [leafFits_scalars_iff hxy henum hbuild, meeting_scalars hxy henum hbuild]
    split <;> simp_all

/-- The relation tells what happens where two names meet, by the names that a pair carries. -/
def TellsMeetings (s : Schema) (c : Config) (A : String → String → Prop) : Prop :=
  ∀ x y, s.LeafFits c A x y ↔
    s.meeting c x y = .fits ∨ ∃ p, s.meeting c x y = .builds p ∧ A p.object p.input.name

theorem tellsMeetings_true : s.TellsMeetings c fun _ _ => True := by
  intro x y
  simp only [leafFits_iff_meets, and_true]

theorem fieldFits_iff_fits {object : String} {f : InputValue} {g : Field}
    (hg : s.field? object f.name = some g) :
    s.FieldFits c A object f ↔ TypeRef.Fits (s.LeafFits c A) g.type f.type := by
  constructor
  · intro h
    cases h with
    | counterpart hg' h =>
      rw [hg, Option.some.injEq] at hg'
      exact hg' ▸ h
    | absent hg' => simp [hg] at hg'
  · exact .counterpart hg

theorem fieldFits_iff_isOptional {object : String} {f : InputValue}
    (hg : s.field? object f.name = none) : s.FieldFits c A object f ↔ f.isOptional = true := by
  rw [InputValue.isOptional, Bool.or_eq_true]
  constructor
  · intro h
    cases h with
    | counterpart hg' => simp [hg] at hg'
    | absent _ h => exact h
  · exact .absent hg

/-- What an input field asks for, told by the step that it adds to the walk. -/
theorem fieldFits_iff_step (hA : s.TellsMeetings c A) (p : InputPair) (f : InputValue) :
    s.FieldFits c A p.object f ↔
      ∀ n ∈ s.inputFieldStep c p f, ∃ q, n = .ok q ∧ A q.object q.input.name := by
  unfold inputFieldStep
  cases hg : s.field? p.object f.name with
  | none =>
    rw [fieldFits_iff_isOptional hg]
    cases hopt : f.isOptional <;> simp
  | some g =>
    rw [fieldFits_iff_fits hg, TypeRef.fits_iff_meet]
    cases hm : g.type.meet? f.type with
    | none => simp [hm]
    | some names =>
      obtain ⟨x, y⟩ := names
      have hnames : (∃ a b, some (x, y) = some (a, b) ∧ s.LeafFits c A a b) ↔
          s.LeafFits c A x y := by simp
      rw [hnames, hA x y]
      cases hxy : s.meeting c x y <;> simp_all

theorem TellsMeetings.listed_iff (hA : s.TellsMeetings c A) (p : InputPair) :
    Listed A (s.inputSteps c p) ↔ ∀ f ∈ p.input.fields.values, s.FieldFits c A p.object f := by
  simp only [Listed, inputSteps, List.mem_filterMap, fieldFits_iff_step hA]
  constructor
  · exact fun h f hf n hn => h n ⟨f, hf, hn⟩
  · rintro h n ⟨f, hf, hn⟩
    exact h f hf n hn

theorem exists_of_ok_mem_inputSteps {p q : InputPair} (h : .ok q ∈ s.inputSteps c p) :
    ∃ f ∈ p.input.fields.values, ∃ g, s.field? p.object f.name = some g ∧
      ∃ x y, g.type.meet? f.type = some (x, y) ∧ s.meeting c x y = .builds q := by
  obtain ⟨f, hf, hq⟩ := List.mem_filterMap.mp h
  refine ⟨f, hf, ?_⟩
  unfold inputFieldStep at hq
  split at hq
  · split at hq <;> cases hq
  · rename_i g hg
    refine ⟨g, hg, ?_⟩
    dsimp only at hq
    split at hq
    · cases hq
    · rename_i x y hnames
      split at hq
      · cases hq
      · cases hq
      · rename_i hm
        cases hq
        exact ⟨x, y, hnames, hm⟩

section Keyed

variable (ho : s.ObjectsKeyed) (hi : s.InputsKeyed)
include ho hi

theorem foundIn_of_lookup {x y : String} {o : FieldedType} {i : InputType}
    (hx : s.fielded? x = some o) (hy : s.inputType? y = some i) :
    InputPair.FoundIn s ⟨o.name, i⟩ := by
  refine ⟨?_, ?_⟩
  · simp only [isFielded, ho.name_eq hx, hx, Option.isSome_some]
  · simp only [hi.name_eq hy, hy]

theorem foundIn_of_meeting {x y : String} {p : InputPair} (h : s.meeting c x y = .builds p) :
    p.FoundIn s := by
  obtain ⟨o, i, hx, hy, rfl⟩ := meeting_builds h
  exact foundIn_of_lookup ho hi hx hy

theorem tellsMeetings_of_keyed : s.TellsMeetings c A := by
  intro x y
  rw [leafFits_iff_meets]
  refine or_congr_right ?_
  constructor
  · rintro ⟨⟨p, hp⟩, hxy⟩
    obtain ⟨o, i, hx, hy, rfl⟩ := meeting_builds hp
    refine ⟨_, hp, ?_⟩
    rwa [ho.name_eq hx, hi.name_eq hy]
  · rintro ⟨p, hp, hA⟩
    obtain ⟨o, i, hx, hy, rfl⟩ := meeting_builds hp
    rw [ho.name_eq hx, hi.name_eq hy] at hA
    exact ⟨⟨_, hp⟩, hA⟩

theorem inputSteps_listed_iff (p : InputPair) :
    Listed A (s.inputSteps c p) ↔ ∀ f ∈ p.input.fields.values, s.FieldFits c A p.object f :=
  (tellsMeetings_of_keyed ho hi).listed_iff p

theorem foundIn_of_mem_inputSteps {p q : InputPair} (h : .ok q ∈ s.inputSteps c p) :
    q.FoundIn s := by
  obtain ⟨f, _, g, _, x, y, _, hm⟩ := exists_of_ok_mem_inputSteps h
  exact foundIn_of_meeting ho hi hm

/-- The keys of a walk without a fault support each other. -/
theorem supports_of_fault_eq_none {p : InputPair} (hp : p.FoundIn s)
    (h : (s.inputWalk c p).fault = none) :
    s.Supports c fun o i => (o, i) ∈ (s.inputWalk c p).visited.map InputPair.key := by
  have hfound : ∀ q ∈ (s.inputWalk c p).visited, q.FoundIn s := by
    apply Walk.forall_visited
    · exact fun a _ b hb => foundIn_of_mem_inputSteps ho hi hb
    · intro a ha
      simp only [List.mem_singleton, Except.ok.injEq] at ha
      exact ha ▸ hp
  -- A pair that was passed over as stale was checked at another place of the same walk.
  have hsettled := (Walk.settled_of_fault_eq_none h).2
  intro o i hoi input hinput f hf
  obtain ⟨q, hq, hkey⟩ := List.mem_map.mp hoi
  obtain ⟨rfl, rfl⟩ := Prod.mk.inj hkey
  have hq' := hfound q hq
  rw [hq'.input, Option.some.injEq] at hinput
  subst hinput
  refine (inputSteps_listed_iff ho hi q).mp ?_ f hf
  intro n hn
  obtain ⟨r, rfl, hr⟩ := hsettled q hq n hn
  exact ⟨r, rfl, hr (key_mem_inputKeys ho (foundIn_of_mem_inputSteps ho hi hn))⟩

theorem inputWalk_fault_eq_none_iff {p : InputPair} (hp : p.FoundIn s) :
    (s.inputWalk c p).fault = none ↔ s.Builds c p.object p.input.name := by
  constructor
  · intro h
    refine ⟨_, supports_of_fault_eq_none ho hi hp h, ?_⟩
    obtain ⟨q, hq, hkey⟩ := (Walk.settled_of_fault_eq_none h).1 _ List.mem_cons_self
    cases hq
    exact hkey (key_mem_inputKeys ho hp)
  · rintro ⟨A, hA, hpA⟩
    have hlisted : ∀ q : InputPair, q.FoundIn s ∧ A q.object q.input.name →
        Listed A (s.inputSteps c q) := by
      rintro q ⟨hq, hqA⟩
      exact (inputSteps_listed_iff ho hi q).mpr (hA _ _ hqA _ hq.input)
    have hvisited : ∀ q ∈ (s.inputWalk c p).visited, q.FoundIn s ∧ A q.object q.input.name := by
      apply Walk.forall_visited
      · intro a ha b hb
        obtain ⟨r, hr, hrA⟩ := hlisted a ha _ hb
        cases hr
        exact ⟨foundIn_of_mem_inputSteps ho hi hb, hrA⟩
      · intro a ha
        simp only [List.mem_singleton, Except.ok.injEq] at ha
        exact ha ▸ ⟨hp, hpA⟩
    apply Option.eq_none_iff_forall_ne_some.mpr
    intro e he
    rcases Walk.fault_source he with hm | ⟨q, hq, hm⟩
    · simp at hm
    · obtain ⟨r, hr, _⟩ := hlisted q (hvisited q hq) _ hm
      cases hr

theorem names_checked_iff (x y : String) :
    (s.meeting c x y = .fits ∨
        ∃ p, s.meeting c x y = .builds p ∧ (s.inputWalk c p).fault = none) ↔
      s.LeafFits c (s.Builds c) x y := by
  rw [tellsMeetings_of_keyed ho hi x y]
  refine or_congr_right (exists_congr fun p => and_congr_right fun hp => ?_)
  exact inputWalk_fault_eq_none_iff ho hi (foundIn_of_meeting ho hi hp)

end Keyed

/-- The names that a check compares, if the wrappers that it looks at fit. -/
def comparedNames (isBatch : Bool) (kind : SupplyKind) (supplied required : TypeRef) :
    Option (String × String) :=
  if isBatch || kind == .sourceField then some (supplied.namedType, required.namedType)
  else supplied.meet? required

theorem checkAssignable_eq_ok_iff_meeting (isBatch : Bool) (kind : SupplyKind)
    (supplied required : TypeRef) :
    s.checkAssignable c isBatch kind supplied required = .ok () ↔
      (isBatch = true → kind = .sourceField → required.listDepth = 1) ∧
        ∃ x y, comparedNames isBatch kind supplied required = some (x, y) ∧
          (s.meeting c x y = .fits ∨
            ∃ p, s.meeting c x y = .builds p ∧ (s.inputWalk c p).fault = none) := by
  have hkey : (isBatch && kind == .sourceField && required.listDepth != 1) = true ↔
      ¬ (isBatch = true → kind = .sourceField → required.listDepth = 1) := by
    simp [and_assoc]
  unfold checkAssignable
  dsimp only
  by_cases hk : isBatch = true → kind = .sourceField → required.listDepth = 1
  · rw [if_neg (fun h => hkey.mp h hk)]
    rw [and_iff_right hk, ← comparedNames]
    cases hn : comparedNames isBatch kind supplied required with
    | none => simp
    | some names =>
      obtain ⟨x, y⟩ := names
      cases hm : s.meeting c x y with
      | fits => simp [hm]
      | clashes => simp [hm]
      | builds p => cases hw : (s.inputWalk c p).fault <;> simp [hm, hw]
  · rw [if_pos (hkey.mpr hk)]
    simp [hk]

/-- The check answers yes exactly on the assignable types. -/
theorem checkAssignable_eq_ok_iff (ho : s.ObjectsKeyed) (hi : s.InputsKeyed) (c : Config) :
    IsGreatest {A | s.Supports c A} (s.Builds c) ∧
      ∀ (isBatch : Bool) (kind : SupplyKind) (supplied required : TypeRef),
        s.checkAssignable c isBatch kind supplied required = .ok () ↔
          s.Assignable c isBatch kind supplied required := by
  refine ⟨builds_isGreatest, fun isBatch kind supplied required => ?_⟩
  simp only [checkAssignable_eq_ok_iff_meeting, names_checked_iff ho hi]
  by_cases hn : isBatch = true ∨ kind = .sourceField
  · have hcompared : comparedNames isBatch kind supplied required =
        some (supplied.namedType, required.namedType) := if_pos (by simpa using hn)
    rw [hcompared]
    constructor
    · rintro ⟨hkey, x, y, hxy, h⟩
      cases hxy
      refine ⟨hkey, fun _ => h, fun hb hk => ?_⟩
      exact absurd hn (by simp [hb, hk])
    · exact fun h => ⟨h.key, _, _, rfl, h.names hn⟩
  · have hcompared : comparedNames isBatch kind supplied required = supplied.meet? required :=
      if_neg (by simpa using hn)
    rw [hcompared, ← TypeRef.fits_iff_meet]
    rw [not_or, Bool.not_eq_true] at hn
    constructor
    · rintro ⟨hkey, h⟩
      exact ⟨hkey, fun hn' => absurd hn' (by simp [hn]), fun _ _ => h⟩
    · exact fun h => ⟨h.key, h.types hn.1 hn.2⟩

/-- Two objects that contain each other, and input objects that do so too. -/
def relatives : Schema := .build [
  .object ((FieldedType.ofName "Parent").withField (.ofType "name" (.named "String"))
    |>.withField (.ofType "children" (.list (.named "Child")))),
  .object ((FieldedType.ofName "Child").withField (.ofType "name" (.named "ID"))
    |>.withField (.ofType "parent" (.named "Parent"))),
  .inputObject ((InputType.ofName "ParentInput").withField ⟨"name", none, .named "ID", none⟩
    |>.withField ⟨"children", none, .nullable (.list (.named "ChildInput")), none⟩),
  .inputObject ((InputType.ofName "ChildInput").withField ⟨"name", none, .named "String", none⟩
    |>.withField ⟨"parent", none, .nullable (.named "ParentInput"), none⟩)]

theorem parent_assignable_to_parentInput :
    relatives.ObjectsKeyed ∧ relatives.InputsKeyed ∧
      relatives.checkAssignable .standard false .fieldArgument (.list (.named "Parent"))
        (.nullable (.list (.named "ParentInput"))) = .ok () := by
  have ho : relatives.ObjectsKeyed := by decide +kernel
  have hi : relatives.InputsKeyed := by decide +kernel
  let keys := [("Parent", "ParentInput"), ("Child", "ChildInput")]
  -- The two pairs lead to each other and to nothing else.
  have hclosed : ∀ k ∈ keys, ∀ input ∈ relatives.inputType? k.2,
      ∀ n ∈ relatives.inputSteps .standard ⟨k.1, input⟩,
        n.toOption.any (fun q => keys.contains q.key) = true := by decide +kernel
  have hsupports : relatives.Supports .standard fun o i => (o, i) ∈ keys := by
    intro o i hoi input hinput
    refine (inputSteps_listed_iff ho hi ⟨o, input⟩).mp fun n hn => ?_
    have hstep := hclosed (o, i) hoi input hinput n hn
    cases n with
    | error e => simp [Except.toOption] at hstep
    | ok q => exact ⟨q, rfl, by simpa [Except.toOption, InputPair.key] using hstep⟩
  have hbuilds : relatives.Builds .standard "Parent" "ParentInput" :=
    ⟨_, hsupports, List.mem_cons_self⟩
  refine ⟨ho, hi, ((checkAssignable_eq_ok_iff ho hi .standard).2 _ _ _ _).mpr ?_⟩
  refine ⟨nofun, nofun, fun _ _ => .intoNullable (.list (.named (.builds ?_ ?_ hbuilds)))⟩
  · decide +kernel
  · decide +kernel

end Schema

end HydrationPlan
