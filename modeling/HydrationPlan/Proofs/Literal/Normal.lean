import HydrationPlan.Proofs.Literal.Coerced

/-!
# Coercing what was coerced

A literal that was coerced is a value of the type, and coercing it once more changes nothing. The
exception are defaults: the default of an input field is taken as it is declared, whether or not it
is a value of the type of the field.
-/

namespace HydrationPlan.Literal

variable {s : Schema} {v w : Literal} {t : TypeRef} {name : String}

theorem coerceBuiltin_of_coerced {scalar : BuiltinScalar}
    (h : coerceBuiltin name scalar v = .ok w) : coerceBuiltin name scalar w = .ok w := by
  unfold coerceBuiltin at h
  split at h
  · split at h
    · rename_i hfits
      cases h
      exact if_pos hfits
    · cases h
  all_goals cases h
  all_goals rfl

theorem coerceEnum_of_coerced {type : EnumType} (h : coerceEnum name type v = .ok w) :
    coerceEnum name type w = .ok w := by
  obtain ⟨value, -, hmem, rfl⟩ := coerceEnum_eq_ok_iff.mp h
  exact coerceEnum_eq_ok_iff.mpr ⟨value, rfl, hmem, rfl⟩

/-- Literals of the type are not objects with fields of their own. -/
def IsLeaf (s : Schema) (name : String) : Prop :=
  BuiltinScalar.ofName? name = none → s.inputType? name = none

theorem coerceNamed_of_coerced (hleaf : IsLeaf s name) (h : coerceNamed s v name = .ok w) :
    coerceNamed s w name = .ok w := by
  cases namedValue_of_coerceNamed h with
  | builtin hscalar hw =>
    rw [coerceNamed_builtin hscalar]
    exact coerceBuiltin_of_coerced hw
  | scalar => exact h
  | enum hbuiltin htype hw =>
    simp only [coerceNamed, hbuiltin, htype]
    exact coerceEnum_of_coerced hw
  | inputObject hbuiltin htype => cases (hleaf hbuiltin).symm.trans htype

theorem isNull_of_coerceNamed (hv : v.isNull = false) (h : coerceNamed s v name = .ok w) :
    w.isNull = false := by
  cases namedValue_of_coerceNamed h with
  | builtin _ hw => exact isNull_of_coerceBuiltin hw
  | scalar => exact hv
  | enum _ _ hw =>
    obtain ⟨value, -, -, rfl⟩ := coerceEnum_eq_ok_iff.mp hw
    rfl
  | inputObject => rfl

/-- Null stays null, and nothing else becomes null. -/
theorem isNull_of_coerce (h : coerce s v t = .ok w) : w.isNull = v.isNull := by
  induction t generalizing w with
  | named name =>
    obtain ⟨hv, hw⟩ := coerce_named_eq_ok_iff.mp h
    rw [hv, isNull_of_coerceNamed hv hw]
  | nullable t ih =>
    rw [coerce_nullable] at h
    split at h
    · rename_i hv
      cases h
      exact hv.symm
    · exact ih h
  | list e _ =>
    obtain ⟨hv, ws, rfl, -⟩ := coerce_list_eq_ok_iff.mp h
    rw [hv]
    rfl

/-- Coercing the literal to the type puts the default where the field has no entry. -/
inductive FillsIn (s : Schema) : Literal → TypeRef → InputValue → Literal → Prop
  | nullable {v d : Literal} {t : TypeRef} {f : InputValue} (hv : v.isNull = false)
      (h : FillsIn s v t f d) : FillsIn s v (.nullable t) f d
  | item {v u d : Literal} {e : TypeRef} {f : InputValue} (hv : v.isNull = false)
      (hu : u ∈ v.asItems) (h : FillsIn s u e f d) : FillsIn s v (.list e) f d
  | field {entries : List (String × Literal)} {name : String} {type : InputType}
      {g f : InputValue} {u d : Literal} (hbuiltin : BuiltinScalar.ofName? name = none)
      (htype : s.inputType? name = some type) (hg : g ∈ type.fields.values)
      (hu : lookup? g.name entries = some u) (h : FillsIn s u g.type f d) :
      FillsIn s (object entries) (.named name) f d
  | here {entries : List (String × Literal)} {name : String} {type : InputType}
      {f : InputValue} {d : Literal} (hbuiltin : BuiltinScalar.ofName? name = none)
      (htype : s.inputType? name = some type) (hf : f ∈ type.fields.values)
      (habsent : lookup? f.name entries = none) (hd : f.defaultValue = some d) :
      FillsIn s (object entries) (.named name) f d

/-- Every default that is filled in is a value of the type of its field. -/
def DefaultsCoerced (s : Schema) (v : Literal) (t : TypeRef) : Prop :=
  ∀ f d, FillsIn s v t f d → coerce s d f.type = .ok d

theorem defaultsCoerced_nullable (hv : v.isNull = false) :
    DefaultsCoerced s v (.nullable t) ↔ DefaultsCoerced s v t := by
  constructor
  · exact fun h f d hd => h f d (.nullable hv hd)
  · rintro h f d ⟨-, hd⟩
    exact h f d hd

theorem defaultsCoerced_list {e : TypeRef} (hv : v.isNull = false) :
    DefaultsCoerced s v (.list e) ↔ ∀ u ∈ v.asItems, DefaultsCoerced s u e := by
  constructor
  · exact fun h u hu f d hd => h f d (.item hv hu hd)
  · intro h f d hd
    cases hd with
    | item _ hu hd => exact h _ hu f d hd

theorem defaultsCoerced_object {entries : List (String × Literal)} {type : InputType}
    (hbuiltin : BuiltinScalar.ofName? name = none) (htype : s.inputType? name = some type) :
    DefaultsCoerced s (object entries) (.named name) ↔ ∀ f ∈ type.fields.values,
      (∀ u, lookup? f.name entries = some u → DefaultsCoerced s u f.type) ∧
        (lookup? f.name entries = none → ∀ d, f.defaultValue = some d →
          coerce s d f.type = .ok d) := by
  constructor
  · exact fun h f hf => ⟨fun u hu g d hd => h g d (.field hbuiltin htype hf hu hd),
      fun habsent d hd => h f d (.here hbuiltin htype hf habsent hd)⟩
  · intro h f d hd
    cases hd with
    | field _ htype' hg hu hd =>
      cases htype.symm.trans htype'
      exact (h _ hg).1 _ hu f d hd
    | here _ htype' hf habsent hd =>
      cases htype.symm.trans htype'
      exact (h _ hf).2 habsent d hd

theorem defaultsCoerced_of_isLeaf (hleaf : IsLeaf s name) :
    DefaultsCoerced s v (.named name) := by
  intro f d hd
  cases hd with
  | field hbuiltin htype => cases htype.symm.trans (hleaf hbuiltin)
  | here hbuiltin htype => cases htype.symm.trans (hleaf hbuiltin)

theorem coerce_coerced_list_iff {ws : List Literal} {e : TypeRef} :
    coerce s (list ws) (.list e) = .ok (list ws) ↔ ∀ w ∈ ws, coerce s w e = .ok w := by
  have hws : List.Forall₂ (fun v w => coerce s v e = .ok w) ws ws ↔
      ∀ w ∈ ws, coerce s w e = .ok w := List.forall₂_same
  rw [← hws, coerce_list_eq_ok_iff]
  simp [isNull, asItems]

theorem coerceNamed_coerced_object_iff (hs : s.InputFieldsKeyed) {type : InputType}
    (hbuiltin : BuiltinScalar.ofName? name = none) (htype : s.inputType? name = some type)
    {filled : List (String × Literal)} (hfilled : filled = listed type.fields.values filled) :
    coerceNamed s (object filled) name = .ok (object filled) ↔
      ∀ f ∈ type.fields.values, Holds s filled f (lookup? f.name filled) := by
  have hknown : ∀ e ∈ filled, type.fields.contains e.1 = true := by
    intro e he
    obtain ⟨f, hf, hname⟩ := mem_names_of_mem_listed (hfilled ▸ he)
    rw [hname, Table.contains, List.contains_iff_mem, ← (hs.namedBy htype).map_name_values]
    exact List.mem_map_of_mem hf
  rw [coerceNamed_object_eq_ok_iff hs hbuiltin htype]
  constructor
  · rintro ⟨-, _, ⟨rfl⟩, hfills⟩
    exact hfills.holds
  · exact fun hholds => ⟨hknown, filled, rfl, hfilled, hholds⟩

/-- A second coercion to the type changes nothing but the defaults that the first has filled in. -/
def ChangesByDefaults (s : Schema) (v : Literal) (t : TypeRef) : Prop :=
  ∀ w, coerce s v t = .ok w → (coerce s w t = .ok w ↔ DefaultsCoerced s v t)

theorem changesByDefaults_nullable (ih : ChangesByDefaults s v t) :
    ChangesByDefaults s v (.nullable t) := by
  intro w h
  rw [coerce_nullable, isNull_of_coerce h]
  rw [coerce_nullable] at h
  cases hv : v.isNull with
  | true =>
    rw [hv, if_pos rfl] at h
    cases h
    refine iff_of_true rfl ?_
    rintro f d ⟨hv', -⟩
    cases hv.symm.trans hv'
  | false =>
    rw [hv, if_neg Bool.false_ne_true] at h
    rw [if_neg Bool.false_ne_true, defaultsCoerced_nullable hv]
    exact ih w h

theorem changesByDefaults_list {e : TypeRef} (ih : ∀ u ∈ v.asItems, ChangesByDefaults s u e) :
    ChangesByDefaults s v (.list e) := by
  intro w h
  obtain ⟨hv, ws, rfl, hws⟩ := coerce_list_eq_ok_iff.mp h
  rw [coerce_coerced_list_iff, defaultsCoerced_list hv]
  constructor
  · intro hall u hu
    obtain ⟨w, hw, huw⟩ := exists_of_mem_left hws hu
    exact (ih u hu w huw).mp (hall w hw)
  · intro hall w hw
    obtain ⟨u, hu, huw⟩ := exists_of_mem_right hws hw
    exact (ih u hu w huw).mpr (hall u hu)

/-- A field keeps what it holds if its entry is kept, or else the default that stands for it. -/
theorem holds_filled_iff {entries filled : List (String × Literal)} {f : InputValue}
    (ih : ∀ u, lookup? f.name entries = some u → ChangesByDefaults s u f.type)
    (h : Holds s entries f (lookup? f.name filled)) :
    Holds s filled f (lookup? f.name filled) ↔
      (∀ u, lookup? f.name entries = some u → DefaultsCoerced s u f.type) ∧
        (lookup? f.name entries = none → ∀ d, f.defaultValue = some d →
          coerce s d f.type = .ok d) := by
  generalize hvalue : lookup? f.name filled = value at h ⊢
  cases h with
  | @entry u w hu huw =>
    rw [holds_iff_of_entry hvalue]
    simp [hu, ih u hu w huw]
  | default hnone hd =>
    rw [holds_iff_of_entry hvalue]
    simp [hnone, hd]
  | absent hnone hd hnull =>
    rw [holds_iff_of_absent hvalue hd]
    simp [hnone, hd, hnull]

theorem changesByDefaults_named (hs : s.InputFieldsKeyed)
    (ih : ∀ u, sizeOf u < sizeOf v → ∀ t, ChangesByDefaults s u t) :
    ChangesByDefaults s v (.named name) := by
  intro w h
  obtain ⟨hv, hw⟩ := coerce_named_eq_ok_iff.mp h
  rw [coerce_named_eq_ok_iff, and_iff_right (isNull_of_coerceNamed hv hw)]
  by_cases hleaf : IsLeaf s name
  · exact iff_of_true (coerceNamed_of_coerced hleaf hw) (defaultsCoerced_of_isLeaf hleaf)
  · obtain ⟨hbuiltin, hinput⟩ := Classical.not_imp.mp hleaf
    obtain ⟨type, htype⟩ := Option.ne_none_iff_exists'.mp hinput
    obtain ⟨entries, rfl⟩ := object_of_coerceNamed hbuiltin htype hw
    obtain ⟨-, filled, rfl, hfills⟩ := (coerceNamed_object_eq_ok_iff hs hbuiltin htype).mp hw
    rw [coerceNamed_coerced_object_iff hs hbuiltin htype hfills.listed,
      defaultsCoerced_object hbuiltin htype]
    exact forall₂_congr fun f hf =>
      holds_filled_iff (fun u hu => ih u (sizeOf_entry_lt_object hu) f.type) (hfills.holds f hf)

theorem changesByDefaults (hs : s.InputFieldsKeyed) (v : Literal) (t : TypeRef) :
    ChangesByDefaults s v t :=
  coercionInduction (fun _ _ ih => changesByDefaults_named hs ih)
    (fun _ _ ih => changesByDefaults_nullable ih) (fun _ _ ih => changesByDefaults_list ih) v t

/-- A coerced literal is left as it is exactly if the defaults that were filled in are values of the
types of their fields. -/
theorem coerce_coerced_iff (hs : s.InputFieldsKeyed) {v w : Literal} {t : TypeRef}
    (h : coerce s v t = .ok w) : coerce s w t = .ok w ↔ DefaultsCoerced s v t :=
  changesByDefaults hs v t w h

/-- Why the fields of input objects must be stored under their names: they are written under their
names and known by their keys, so that a field stored under another key is refused the next time. -/
theorem renamedField_refused :
    let size : InputValue := ⟨"size", none, .named "Int", some (int 10)⟩
    let s : Schema := .build [.inputObject ⟨"Page", none, .ofList [("length", size)]⟩]
    coerce s (object []) (.named "Page") = .ok (object [("size", int 10)]) ∧
      coerce s (object [("size", int 10)]) (.named "Page") =
        .error (.unknownInputField "Page" "size") := by
  refine ⟨by cbv, by cbv⟩

/-- Pages that start with the default order unless they are given another. -/
def pages (order : Literal) : Schema :=
  .build [.enum "Status" ["OPEN", "CLOSED"],
    .inputObject (InputType.ofName "Page" |>.withField ⟨"size", none, .named "Int", none⟩
      |>.withField ⟨"cursor", none, .nullable (.named "String"), none⟩
      |>.withField ⟨"order", none, .named "Status", some order⟩)]

/-- A page that stands alone is wrapped, and the page in the list is left as it is. -/
theorem openPages_coerced :
    let s := pages (.enum "OPEN")
    let v := object [("size", int 10)]
    let w := list [object [("size", int 10), ("order", .enum "OPEN")]]
    s.InputFieldsKeyed ∧ coerce s v (.list (.nullable (.named "Page"))) = .ok w ∧
      (coerce s w (.list (.nullable (.named "Page"))) = .ok w ↔
        DefaultsCoerced s v (.list (.nullable (.named "Page")))) ∧
      coerce s w (.list (.nullable (.named "Page"))) = .ok w := by
  have hs : (pages (.enum "OPEN")).InputFieldsKeyed := by decide +kernel
  have h : coerce (pages (.enum "OPEN")) (object [("size", int 10)])
      (.list (.nullable (.named "Page"))) =
        .ok (list [object [("size", int 10), ("order", .enum "OPEN")]]) := by cbv
  exact ⟨hs, h, coerce_coerced_iff hs h, by cbv⟩

/-- A default that is given as text is left as text, and only the second time it is read as a value
of the enum. -/
theorem openPage_not_coerced :
    let s := pages (string "OPEN")
    let w := object [("size", int 10), ("order", string "OPEN")]
    s.InputFieldsKeyed ∧ coerce s (object [("size", int 10)]) (.named "Page") = .ok w ∧
      coerce s w (.named "Page") = .ok (object [("size", int 10), ("order", .enum "OPEN")]) ∧
        coerce s w (.named "Page") ≠ .ok w := by
  intro s w
  have hsecond : coerce s w (.named "Page") =
      .ok (object [("size", int 10), ("order", .enum "OPEN")]) := by cbv
  refine ⟨by decide +kernel, by cbv, hsecond, ?_⟩
  rw [hsecond]
  simp [w]

end HydrationPlan.Literal
