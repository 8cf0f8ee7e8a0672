import HydrationPlan.Proofs.Assignability.Violation
import HydrationPlan.Proofs.Eased

/-!
# Enum overrides

An override lets one enum be passed where another is expected. It is asked for where two enums meet,
and nowhere else: more overrides can only turn a clash of two enums into a fit.
-/

namespace HydrationPlan

/-- The second configuration lists the enum overrides of the first, and perhaps more. -/
structure Config.Extends (c d : Config) : Prop where
  enumOverrides : c.enumOverrides ⊆ d.enumOverrides
  parallel : c.parallel = d.parallel
  defaultBatchSize : c.defaultBatchSize = d.defaultBatchSize
  defaultTimeoutMillis : c.defaultTimeoutMillis = d.defaultTimeoutMillis

/-- The configurations list the same overrides, except perhaps for the one from `a` to `b`. -/
def Config.DifferAt (c d : Config) (a b : String) : Prop :=
  ∀ x y, ¬ (x = a ∧ y = b) → c.isEnumOverride x y = d.isEnumOverride x y

/-- Two types met that do not fit. -/
inductive Mismatch.IsClash : Mismatch → Prop
  | inputType (supplied required : String) : IsClash (.incompatibleInputType supplied required)
  | field (suppliedType suppliedField inputType inputField : String) :
      IsClash (.incompatibleField suppliedType suppliedField inputType inputField)

namespace Config

variable {c d : Config}

theorem Extends.withEnumOverride (c : Config) (supplied required : String) :
    c.Extends (c.withEnumOverride supplied required) where
  enumOverrides := List.subset_append_left _ _
  parallel := rfl
  defaultBatchSize := rfl
  defaultTimeoutMillis := rfl

theorem Extends.isEnumOverride (h : c.Extends d) {x y : String}
    (hxy : c.isEnumOverride x y = true) : d.isEnumOverride x y = true := by
  rw [Config.isEnumOverride, List.contains_iff_mem] at hxy ⊢
  exact h.enumOverrides hxy

theorem DifferAt.withEnumOverride (c : Config) (a b : String) :
    c.DifferAt (c.withEnumOverride a b) a b := by
  intro x y hxy
  have hne : EnumOverride.mk x y ≠ ⟨a, b⟩ := fun h => hxy (EnumOverride.mk.inj h)
  simp [isEnumOverride, Config.withEnumOverride, hne]

end Config

namespace Schema

variable {s : Schema} {c d : Config}

theorem enumType?_of_inputType? {x : String} {i : InputType} (h : s.inputType? x = some i) :
    s.enumType? x = none := by
  have htype : s.type? x = some (.inputObject i) :=
    (s.types.get?_eq_some_iff _ _).mpr (inputType?_eq_some h)
  rw [enumType?, htype]

section Meetings

variable {x y : String}

theorem meeting_congr (h : c.isEnumOverride x y = d.isEnumOverride x y) :
    s.meeting c x y = s.meeting d x y := by
  have hfits : enumFits c x y = enumFits d x y := by
    funext a b
    rw [enumFits, enumFits, h]
  simp only [meeting, hfits]

/-- The override is not asked for unless both names are enums. -/
theorem meeting_congr_of_not_enum (h : s.enumType? x = none) :
    s.meeting c x y = s.meeting d x y := by
  simp only [meeting, h]

theorem meeting_extended (h : c.Extends d) (x y : String) :
    s.meeting c x y = s.meeting d x y ∨
      (s.meeting c x y = .clashes ∧ s.meeting d x y = .fits) := by
  by_cases hsame : c.isEnumOverride x y = d.isEnumOverride x y
  · exact .inl (meeting_congr hsame)
  · have hc : c.isEnumOverride x y = false := by
      rw [← Bool.not_eq_true]
      exact fun hc => hsame (hc.trans (h.isEnumOverride hc).symm)
    have hd : d.isEnumOverride x y = true := by
      rw [← Bool.not_eq_false]
      exact fun hd => hsame (hc.trans hd.symm)
    unfold meeting
    split
    · exact .inl rfl
    · split
      · rename_i a b ha hb
        have hfits : enumFits d x y a b = true := by rw [enumFits, hd, Bool.true_or]
        rw [if_pos hfits]
        split
        · exact .inl rfl
        · exact .inr ⟨rfl, rfl⟩
      · exact .inl rfl

end Meetings

section Steps

variable {p : InputPair} {f : InputValue}

theorem inputFieldStep_congr (h : ∀ o, s.field? p.object f.name = some o →
    s.meeting c o.type.namedType f.type.namedType = s.meeting d o.type.namedType f.type.namedType) :
    s.inputFieldStep c p f = s.inputFieldStep d p f := by
  unfold inputFieldStep
  cases ho : s.field? p.object f.name with
  | none => rfl
  | some o =>
    dsimp only
    cases hmeet : o.type.meet? f.type with
    | none => rfl
    | some names =>
      obtain ⟨x, y⟩ := names
      obtain ⟨rfl, rfl⟩ := TypeRef.namedTypes_of_meet? hmeet
      simp only [h o ho]

theorem inputFieldStep_extended (h : c.Extends d) (p : InputPair) (f : InputValue) :
    s.inputFieldStep c p f = s.inputFieldStep d p f ∨
      ∃ m : Mismatch, m.IsClash ∧ s.inputFieldStep c p f = some (.error m) ∧
        s.inputFieldStep d p f = none := by
  unfold inputFieldStep
  cases s.field? p.object f.name with
  | none => exact .inl rfl
  | some o =>
    dsimp only
    cases o.type.meet? f.type with
    | none => exact .inl rfl
    | some names =>
      dsimp only
      rcases meeting_extended h names.1 names.2 with hsame | ⟨hc, hd⟩
      · rw [hsame]
        exact .inl rfl
      · rw [hc, hd]
        exact .inr ⟨_, .field _ _ _ _, rfl, rfl⟩

theorem inputWalk_congr (h : ∀ x y, s.meeting c x y = s.meeting d x y) (p : InputPair) :
    s.inputWalk c p = s.inputWalk d p := by
  have hsteps : s.inputSteps c = s.inputSteps d := by
    funext q
    exact List.filterMap_congr fun f _ => inputFieldStep_congr fun _ _ => h _ _
  rw [inputWalk, inputWalk, hsteps]

theorem fault_inputWalk_extended (h : c.Extends d) (p : InputPair) :
    (s.inputWalk c p).fault = (s.inputWalk d p).fault ∨
      ∃ m : Mismatch, m.IsClash ∧ (s.inputWalk c p).fault = some m :=
  Thinned.fault_run (fun q => .filterMap (inputFieldStep_extended h q) _) (.refl _)

end Steps

variable {isBatch : Bool} {kind : SupplyKind} {supplied required : TypeRef}

/-- More overrides change the outcome of a check only where it was refused for a clash. -/
theorem eased_checkAssignable (h : c.Extends d) :
    Eased Mismatch.IsClash Eq (s.checkAssignable c isBatch kind supplied required)
      (s.checkAssignable d isBatch kind supplied required) := by
  unfold checkAssignable
  dsimp only
  split
  · exact .error _
  · split
    · exact .error _
    · rename_i x y _
      rcases meeting_extended h x y with hsame | ⟨hc, hd⟩
      · rw [hsame]
        cases s.meeting d x y with
        | fits => exact .ok rfl
        | clashes => exact .error _
        | builds pair =>
          dsimp only
          rcases fault_inputWalk_extended h pair with hfault | ⟨m, hm, hfault⟩
          · rw [hfault]
            exact .refl _
          · rw [hfault]
            exact .lifted hm _
      · rw [hc]
        exact .lifted (.inputType _ _) _

theorem checkAssignable_congr
    (hnames : s.meeting c supplied.namedType required.namedType =
      s.meeting d supplied.namedType required.namedType)
    (hwalk : ∀ p, s.meeting d supplied.namedType required.namedType = .builds p →
      s.inputWalk c p = s.inputWalk d p) :
    s.checkAssignable c isBatch kind supplied required =
      s.checkAssignable d isBatch kind supplied required := by
  unfold checkAssignable
  dsimp only
  rw [← comparedNames]
  split
  · rfl
  · cases hcompared : comparedNames isBatch kind supplied required with
    | none => rfl
    | some names =>
      obtain ⟨x, y⟩ := names
      obtain ⟨rfl, rfl⟩ := namedTypes_of_comparedNames hcompared
      dsimp only
      rw [hnames]
      cases hmeeting : s.meeting d supplied.namedType required.namedType with
      | fits => rfl
      | clashes => rfl
      | builds p => simp only [hwalk p hmeeting]

theorem meeting_of_differAt {a b : String} (h : c.DifferAt d a b) :
    s.meeting c b a = s.meeting d b a := by
  by_cases hself : b = a
  · rw [hself, meeting_self, meeting_self]
  · exact meeting_congr (h b a fun hsame => hself hsame.1)

theorem inputFieldStep_of_differAt {a b : String} (h : c.DifferAt d a b) {p : InputPair}
    {f : InputValue} {o : Field} (ho : s.field? p.object f.name = some o)
    (hsupplied : o.type.namedType = b) (hrequired : f.type.namedType = a) :
    s.inputFieldStep c p f = s.inputFieldStep d p f := by
  subst hsupplied hrequired
  apply inputFieldStep_congr
  intro o' ho'
  rw [ho, Option.some.injEq] at ho'
  rw [← ho']
  exact meeting_of_differAt h

/-- An override is directional: the one from `a` to `b` does not matter where `b` is supplied for
`a`. Either both are enums, and then the other direction is asked for; or one of them is not, and
then no override between them is ever asked for. -/
theorem checkAssignable_of_differAt {a b : String} (h : c.DifferAt d a b)
    (hsupplied : supplied.namedType = b) (hrequired : required.namedType = a) :
    s.checkAssignable c isBatch kind supplied required =
      s.checkAssignable d isBatch kind supplied required := by
  subst hsupplied hrequired
  apply checkAssignable_congr (meeting_of_differAt h)
  intro p hp
  -- The required type is an input object, so that it is no enum wherever it is met.
  obtain ⟨o, i, -, hi, -⟩ := meeting_builds hp
  apply inputWalk_congr
  intro x y
  by_cases hxy : x = required.namedType ∧ y = supplied.namedType
  · apply meeting_congr_of_not_enum
    rw [hxy.1]
    exact enumType?_of_inputType? hi
  · exact meeting_congr (h x y hxy)

end Schema

end HydrationPlan
