import HydrationPlan.Hydration.Argument
import HydrationPlan.Proofs.Assignability.Decision

/-!
# Input shapes after the check

An input shape is only asked for after the types were found assignable. The check looks fields up
under the name of the object and the shape under its key, so that the two agree where objects are
stored under their names. The check also takes input objects of one name for one, so that only
where they are stored under their names too is the object known to build them all.
-/

namespace HydrationPlan.Schema

variable {s : Schema} {c : Config} {A : String → String → Prop}

def filledNames (s : Schema) (object : String) (input : InputType) : List String :=
  (input.fields.values.filter fun f => (s.field? object f.name).isSome).map (·.name)

/-- The names are those of the input fields that the object has, among them every input field that
a caller may not leave out, and the types of these fields fit. -/
structure Fills (s : Schema) (c : Config) (A : String → String → Prop) (object : String)
    (input : InputType) (names : List String) : Prop where
  names_eq : names = s.filledNames object input
  required : ∀ f ∈ input.fields.values, f.type.isNullable = false → f.defaultValue = none →
    f.name ∈ names
  fits : ∀ f ∈ input.fields.values, ∀ g, s.field? object f.name = some g →
    TypeRef.Fits (s.LeafFits c A) g.type f.type

/-- There is a shape exactly for a source with fields and an input object, and it fills the input
object from the source. -/
structure Shapes (s : Schema) (c : Config) (A : String → String → Prop) (source backing : TypeRef)
    (shape : Option InputShape) : Prop where
  isSome_iff : shape.isSome ↔ (s.inputType? backing.namedType).isSome ∧
    s.isFielded source.namedType
  fills : ∀ sh ∈ shape, ∃ input, s.inputType? backing.namedType = some input ∧
    sh.objectType = source.namedType ∧ sh.inputType = input.name ∧
    s.Fills c A source.namedType input sh.fields

/-- What the check tells of an object that meets an input object: it may build it, if names tell
input objects apart. -/
def BuildsIfKeyed (s : Schema) (c : Config) (object input : String) : Prop :=
  s.InputsKeyed → s.Builds c object input

theorem sharedFields_eq_ok (object input : String) {fields : Table String Field}
    {fs : List InputValue} (h : ∀ f ∈ fs, fields.contains f.name ∨ f.isOptional) :
    sharedFields object input fields fs =
      .ok ((fs.filter fun f => fields.contains f.name).map (·.name)) := by
  induction fs with
  | nil => rfl
  | cons f fs ih =>
    have ih := ih fun g hg => h g (List.mem_cons_of_mem f hg)
    by_cases hf : fields.contains f.name = true
    · simp [sharedFields, hf, ih, Except.map]
    · have hopt : f.isOptional = true := (h f List.mem_cons_self).resolve_left hf
      simp [sharedFields, hf, hopt, ih]

theorem inputShape_eq_ok {source backing : TypeRef} {object : FieldedType} {input : InputType}
    (hf : s.fielded? source.namedType = some object)
    (hi : s.inputType? backing.namedType = some input)
    (h : ∀ f ∈ input.fields.values,
      (s.field? source.namedType f.name).isSome ∨ f.isOptional) :
    s.inputShape source backing = .ok (some
      ⟨source.namedType, input.name, s.filledNames source.namedType input⟩) := by
  have hcontains : ∀ name, object.fields.contains name =
      (s.field? source.namedType name).isSome := by
    intro name
    rw [Bool.eq_iff_iff, Table.contains_iff]
    simp [field?, fieldsOf?, hf]
  simp only [← hcontains] at h
  simp only [inputShape, hi, fieldsOf?, hf, Option.map_some, sharedFields_eq_ok _ _ h,
    filledNames, ← hcontains]
  rfl

theorem FieldFits.isSome_or_isOptional {object : String} {f : InputValue}
    (h : s.FieldFits c A object f) : (s.field? object f.name).isSome ∨ f.isOptional := by
  cases hg : s.field? object f.name with
  | none => exact .inr ((fieldFits_iff_isOptional hg).mp h)
  | some g => exact .inl rfl

theorem fills_of_fieldFits {object : String} {input : InputType}
    (h : ∀ f ∈ input.fields.values, s.FieldFits c A object f) :
    s.Fills c A object input (s.filledNames object input) := by
  refine ⟨rfl, ?_, ?_⟩
  · intro f hf hnull hdefault
    refine List.mem_map_of_mem (List.mem_filter.mpr ⟨hf, ?_⟩)
    exact (h f hf).isSome_or_isOptional.resolve_right (by simp [InputValue.isOptional, *])
  · exact fun f hf g hg => (fieldFits_iff_fits hg).mp (h f hf)

/-- The first pair of a walk is checked even if another pair of its names is not. -/
theorem fieldFits_of_fault_eq_none {p : InputPair} (hkey : p.key ∈ s.inputKeys)
    (h : (s.inputWalk c p).fault = none) :
    ∀ f ∈ p.input.fields.values, s.FieldFits c (fun _ _ => True) p.object f := by
  have hvisited : p ∈ (s.inputWalk c p).visited := Walk.mem_visited_of_fresh hkey
  refine (tellsMeetings_true.listed_iff p).mp fun n hn => ?_
  obtain ⟨q, rfl, -⟩ := (Walk.settled_of_fault_eq_none h).2 p hvisited n hn
  exact ⟨q, rfl, trivial⟩

theorem fieldFits_buildsIfKeyed (ho : s.ObjectsKeyed) {object : String} {o : FieldedType}
    {input : InputType} {name : String} (hx : s.fielded? object = some o)
    (hy : s.inputType? name = some input) (h : (s.inputWalk c ⟨o.name, input⟩).fault = none) :
    ∀ f ∈ input.fields.values, s.FieldFits c (s.BuildsIfKeyed c) object f := by
  have hname := ho.name_eq hx
  by_cases hi : s.InputsKeyed
  · have hfound : InputPair.FoundIn s ⟨o.name, input⟩ := foundIn_of_lookup ho hi hx hy
    have hbuilds : s.Builds c o.name input.name :=
      (inputWalk_fault_eq_none_iff ho hi hfound).mp h
    intro f hf
    have hfits := builds_isGreatest.1 _ _ hbuilds input hfound.input f hf
    exact hname ▸ hfits.mono fun _ _ hb _ => hb
  · intro f hf
    have hfits := fieldFits_of_fault_eq_none (mem_inputKeys hx hy) h f hf
    exact hname ▸ hfits.mono fun _ _ _ hkeyed => absurd hkeyed hi

/-- A pair of assignable types has a shape, or none where none is called for. -/
theorem exists_inputShape (ho : s.ObjectsKeyed) {isBatch : Bool} {source backing : TypeRef}
    (h : s.checkAssignable c isBatch .sourceField source backing = .ok ()) :
    ∃ shape, s.inputShape source backing = .ok shape ∧
      s.Shapes c (s.BuildsIfKeyed c) source backing shape := by
  obtain ⟨-, x, y, hxy, hmeet⟩ := (checkAssignable_eq_ok_iff_meeting ..).mp h
  rw [comparedNames, if_pos (by simp)] at hxy
  cases hxy
  cases hi : s.inputType? backing.namedType with
  | none => exact ⟨none, by simp [inputShape, hi], by simp [hi], by simp⟩
  | some input =>
    cases hf : s.fielded? source.namedType with
    | none =>
      exact ⟨none, by simp [inputShape, hi, fieldsOf?, hf], by simp [isFielded, hf], by simp⟩
    | some object =>
      -- An object is no input object, so the names differ and their pair was walked.
      have hne : source.namedType ≠ backing.namedType := by
        intro he
        rw [← he, inputType?_of_fielded (by simp [isFielded, hf])] at hi
        cases hi
      rw [meeting_fielded hne hf hi] at hmeet
      obtain hm | ⟨p, hp, hfault⟩ := hmeet
      · cases hm
      cases hp
      have hfits := fieldFits_buildsIfKeyed ho hf hi hfault
      refine ⟨_, inputShape_eq_ok hf hi fun f hm => (hfits f hm).isSome_or_isOptional, ?_, ?_⟩
      · simp [hi, isFielded, hf]
      · rintro _ ⟨⟩
        exact ⟨input, hi, rfl, rfl, fills_of_fieldFits hfits⟩

end HydrationPlan.Schema
