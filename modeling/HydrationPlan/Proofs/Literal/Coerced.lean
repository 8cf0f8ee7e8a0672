import HydrationPlan.Proofs.Checked
import HydrationPlan.Proofs.Literal.Coercion

/-!
# What a coercion gives

One lemma for each shape of a type says when a literal is coerced to it and what it becomes. A value
that stands alone is taken for the list of it, and an input object lists its fields in declared
order, each with its entry or its default.
-/

namespace HydrationPlan

theorem Schema.inputType?_eq_some_iff {s : Schema} {name : String} {type : InputType} :
    s.inputType? name = some type ↔ s.type? name = some (.inputObject type) := by
  unfold inputType?
  split
  · rename_i u hu
    simp [hu]
  · rename_i hu
    exact ⟨nofun, fun h => absurd h (hu type)⟩

/-- The fields of every input object are stored under their own names. -/
def Schema.InputFieldsKeyed (s : Schema) : Prop :=
  ∀ e ∈ s.types.entries, ∀ t ∈ e.2.input?, t.fields.NamedBy InputValue.name

instance (s : Schema) : Decidable s.InputFieldsKeyed :=
  inferInstanceAs
    (Decidable (∀ e ∈ s.types.entries, ∀ t ∈ e.2.input?, t.fields.NamedBy InputValue.name))

theorem Schema.InputFieldsKeyed.namedBy {s : Schema} (hs : s.InputFieldsKeyed) {name : String}
    {type : InputType} (h : s.inputType? name = some type) :
    type.fields.NamedBy InputValue.name :=
  hs _ (inputType?_eq_some h) type rfl

theorem BuiltinScalar.ofName?_eq_none_iff {name : String} :
    ofName? name = none ↔ name ∉ builtinScalars := by
  unfold ofName?
  split
  case h_6 h1 h2 h3 h4 h5 =>
    refine iff_of_true rfl ?_
    simpa [builtinScalars] using ⟨h1, h2, h3, h4, h5⟩
  all_goals exact iff_of_false nofun (not_not_intro (by decide))

namespace Literal

variable {s : Schema} {v w : Literal} {name : String}

/-- The items of a list; a value that stands alone is the only item of its list. -/
def asItems : Literal → List Literal
  | list items => items
  | v => [v]

theorem sizeOf_le_of_mem_asItems {u : Literal} (h : u ∈ v.asItems) : sizeOf u ≤ sizeOf v := by
  cases v with
  | list items =>
    have hitem : sizeOf u < sizeOf items := List.sizeOf_lt_of_mem h
    simp only [list.sizeOf_spec]
    omega
  | _ => exact Nat.le_of_eq (congrArg sizeOf (List.mem_singleton.mp h))

/-- Coercion enters a literal with each field and a type with each wrapper. What stands alone is the
only item of its list and does not get smaller there. -/
theorem coercionInduction {P : Literal → TypeRef → Prop}
    (named : ∀ v name, (∀ u, sizeOf u < sizeOf v → ∀ t, P u t) → P v (.named name))
    (nullable : ∀ v t, P v t → P v (.nullable t))
    (list : ∀ v e, (∀ u ∈ v.asItems, P u e) → P v (.list e)) (v : Literal) (t : TypeRef) :
    P v t := by
  match t with
  | .named name => exact named v name fun u hu t => coercionInduction named nullable list u t
  | .nullable t => exact nullable v t (coercionInduction named nullable list v t)
  | .list e =>
    refine list v e fun u hu => ?_
    have hsize := sizeOf_le_of_mem_asItems hu
    exact coercionInduction named nullable list u e
termination_by (sizeOf v, sizeOf t)
decreasing_by
  all_goals
    simp only [Prod.lex_def, TypeRef.nullable.sizeOf_spec, TypeRef.list.sizeOf_spec, true_and]
    omega

theorem sizeOf_entry_lt_object {entries : List (String × Literal)}
    (h : lookup? name entries = some v) : sizeOf v < sizeOf (object entries) := by
  rw [object.sizeOf_spec]
  exact Nat.lt_add_left 1 (sizeOf_entry_lt h)

theorem coerceNamed_builtin {scalar : BuiltinScalar}
    (h : BuiltinScalar.ofName? name = some scalar) :
    coerceNamed s v name = coerceBuiltin name scalar v := by
  rw [coerceNamed, h]

inductive NamedValue (s : Schema) (name : String) : Literal → Literal → Prop
  | builtin {v w : Literal} {scalar : BuiltinScalar}
      (hscalar : BuiltinScalar.ofName? name = some scalar)
      (h : coerceBuiltin name scalar v = .ok w) : NamedValue s name v w
  | scalar {v : Literal} {type : ScalarType} (hbuiltin : BuiltinScalar.ofName? name = none)
      (htype : s.type? name = some (.scalar type)) : NamedValue s name v v
  | enum {v w : Literal} {type : EnumType} (hbuiltin : BuiltinScalar.ofName? name = none)
      (htype : s.type? name = some (.enum type)) (h : coerceEnum name type v = .ok w) :
      NamedValue s name v w
  | inputObject {entries filled : List (String × Literal)} {type : InputType}
      (hbuiltin : BuiltinScalar.ofName? name = none) (htype : s.inputType? name = some type)
      (h : coerceNamed s (object entries) name = .ok (object filled)) :
      NamedValue s name (object entries) (object filled)

theorem namedValue_of_coerceNamed (h : coerceNamed s v name = .ok w) : NamedValue s name v w := by
  have hw := h
  unfold coerceNamed at h
  split at h
  · rename_i hscalar
    exact .builtin hscalar h
  · rename_i hbuiltin
    split at h
    · rename_i htype
      cases h
      exact .scalar hbuiltin htype
    · rename_i htype
      exact .enum hbuiltin htype h
    · rename_i htype
      split at h
      · split at h
        · cases h
        · obtain ⟨filled, -, rfl⟩ := map_eq_ok_iff.mp h
          exact .inputObject hbuiltin (Schema.inputType?_eq_some_iff.mpr htype) hw
      · cases h
    · cases h

theorem isNull_of_coerceBuiltin {scalar : BuiltinScalar}
    (h : coerceBuiltin name scalar v = .ok w) : w.isNull = false := by
  unfold coerceBuiltin at h
  split at h
  · split at h <;> cases h
    rfl
  all_goals cases h
  all_goals rfl

theorem coerceEnum_eq_ok_iff {type : EnumType} :
    coerceEnum name type v = .ok w ↔
      ∃ value, v.enumName? = some value ∧ value ∈ type.values ∧ w = enum value := by
  have hhas : ∀ value, type.hasValue value = true ↔ value ∈ type.values :=
    fun _ => List.contains_iff_mem
  unfold coerceEnum
  cases v.enumName? with
  | none => exact ⟨nofun, nofun⟩
  | some value =>
    simp only [hhas, Option.some.injEq, exists_eq_left']
    split
    · rename_i hmem
      rw [and_iff_right hmem, Except.ok.injEq]
      exact eq_comm
    · rename_i hmem
      exact ⟨nofun, fun h => absurd h.1 hmem⟩

theorem coerceItems_eq_ok_iff {items ws : List Literal} {e : TypeRef} :
    coerceItems s items e = .ok ws ↔ List.Forall₂ (fun v w => coerce s v e = .ok w) items ws := by
  induction items generalizing ws with
  | nil =>
    rw [coerceItems, List.forall₂_nil_left_iff, Except.ok.injEq]
    exact eq_comm
  | cons v rest ih =>
    rw [coerceItems, List.forall₂_cons_left_iff]
    simp only [bind_eq_ok_iff, pure_eq_ok_iff, ih]
    constructor
    · rintro ⟨w, hw, ws, hws, rfl⟩
      exact ⟨w, ws, hw, hws, rfl⟩
    · rintro ⟨w, ws, hw, hws, rfl⟩
      exact ⟨w, hw, ws, hws, rfl⟩

theorem coerce_nullable (v : Literal) (t : TypeRef) :
    coerce s v (.nullable t) = if v.isNull then .ok null else coerce s v t := by
  rw [coerce]

theorem coerce_list_eq_ok_iff {e : TypeRef} :
    coerce s v (.list e) = .ok w ↔ v.isNull = false ∧ ∃ ws, w = .list ws ∧
      List.Forall₂ (fun v w => coerce s v e = .ok w) v.asItems ws := by
  cases v with
  | null => simp [coerce, isNull]
  | list items =>
    simp only [coerce, isNull, Bool.false_eq_true, if_false, map_eq_ok_iff, asItems, true_and,
      coerceItems_eq_ok_iff]
    exact exists_congr fun ws => and_comm.trans (and_congr_left' eq_comm)
  | _ =>
    simp only [coerce, isNull, Bool.false_eq_true, if_false, map_eq_ok_iff, asItems, true_and,
      List.forall₂_cons_left_iff, List.forall₂_nil_left_iff]
    constructor
    · rintro ⟨u, hu, rfl⟩
      exact ⟨[u], rfl, u, [], hu, rfl, rfl⟩
    · rintro ⟨_, rfl, u, _, hu, rfl, rfl⟩
      exact ⟨u, hu, rfl⟩

theorem coerce_named_eq_ok_iff :
    coerce s v (.named name) = .ok w ↔ v.isNull = false ∧ coerceNamed s v name = .ok w := by
  rw [coerce]
  cases v.isNull <;> simp

/-- What an input field holds: its entry, coerced, or else its default. It may hold nothing if null
is allowed. -/
inductive Holds (s : Schema) (entries : List (String × Literal)) (f : InputValue) :
    Option Literal → Prop
  | entry {v w : Literal} (hv : lookup? f.name entries = some v)
      (hw : coerce s v f.type = .ok w) : Holds s entries f (some w)
  | default {d : Literal} (hv : lookup? f.name entries = none) (hd : f.defaultValue = some d) :
      Holds s entries f (some d)
  | absent (hv : lookup? f.name entries = none) (hd : f.defaultValue = none)
      (hnull : f.type.isNullable = true) : Holds s entries f none

section Fields

variable {typeName : String} {entries done out : List (String × Literal)} {value : Option Literal}
variable {f : InputValue} {fields : List InputValue}

theorem holds_iff_of_entry (hv : lookup? f.name entries = some v) :
    Holds s entries f value ↔ ∃ w, value = some w ∧ coerce s v f.type = .ok w := by
  constructor
  · rintro (⟨hv', hw⟩ | hv' | hv')
    · cases hv.symm.trans hv'
      exact ⟨_, rfl, hw⟩
    all_goals cases hv.symm.trans hv'
  · rintro ⟨w, rfl, hw⟩
    exact .entry hv hw

theorem holds_iff_of_default {d : Literal} (hv : lookup? f.name entries = none)
    (hd : f.defaultValue = some d) : Holds s entries f value ↔ value = some d := by
  constructor
  · rintro (hv' | ⟨-, hd'⟩ | ⟨-, hd'⟩)
    · cases hv.symm.trans hv'
    all_goals cases hd.symm.trans hd'
    rfl
  · rintro rfl
    exact .default hv hd

theorem holds_iff_of_absent (hv : lookup? f.name entries = none) (hd : f.defaultValue = none) :
    Holds s entries f value ↔ value = none ∧ f.type.isNullable = true := by
  constructor
  · rintro (hv' | ⟨-, hd'⟩ | ⟨-, -, hnull⟩)
    · cases hv.symm.trans hv'
    · cases hd.symm.trans hd'
    · exact ⟨rfl, hnull⟩
  · rintro ⟨rfl, hnull⟩
    exact .absent hv hd hnull

theorem coerceFields_cons_eq_ok_iff :
    coerceFields s typeName entries (f :: fields) done = .ok out ↔ ∃ value,
      Holds s entries f value ∧ coerceFields s typeName entries fields
        (value.elim done fun w => upsert f.name w done) = .ok out := by
  cases hv : lookup? f.name entries with
  | some v =>
    rw [coerceFields_of_entry s hv, bind_eq_ok_iff]
    simp [holds_iff_of_entry hv]
  | none =>
    cases hd : f.defaultValue with
    | some d =>
      rw [coerceFields_of_default s hv hd]
      simp [holds_iff_of_default hv hd]
    | none =>
      rw [coerceFields_of_absent s hv hd]
      cases hnull : f.type.isNullable <;> simp [holds_iff_of_absent hv hd, hnull]

theorem lookup?_append (name : String) (l m : List (String × Literal)) :
    lookup? name (l ++ m) = (lookup? name l).or (lookup? name m) := by
  induction l with
  | nil => rfl
  | cons e rest ih =>
    rw [List.cons_append, lookup?, lookup?, ih]
    split <;> rfl

def slot (f : InputValue) (value : Option Literal) : List (String × Literal) :=
  (value.map fun v => (f.name, v)).toList

theorem lookup?_slot (f : InputValue) (value : Option Literal) :
    lookup? f.name (slot f value) = value := by
  cases value <;> simp [slot, lookup?]

theorem lookup?_slot_append {g : InputValue} (h : f.name ≠ g.name) (value : Option Literal)
    (l : List (String × Literal)) : lookup? g.name (slot f value ++ l) = lookup? g.name l := by
  rw [lookup?_append]
  cases value <;> simp [slot, lookup?, h]

theorem elim_upsert_eq (h : f.name ∉ done.map Prod.fst) (value : Option Literal) :
    (value.elim done fun w => upsert f.name w done) = done ++ slot f value := by
  cases value with
  | none => exact (List.append_nil done).symm
  | some w => exact upsert_of_notMem h

/-- The entries of the fields, in the order of the fields. -/
def listed (fields : List InputValue) (entries : List (String × Literal)) :
    List (String × Literal) :=
  fields.flatMap fun f => slot f (lookup? f.name entries)

theorem lookup?_listed_eq_none {name : String} (h : name ∉ fields.map (·.name)) :
    lookup? name (listed fields entries) = none := by
  induction fields with
  | nil => rfl
  | cons f fields ih =>
    rw [List.map_cons, List.mem_cons, not_or] at h
    rw [listed, List.flatMap_cons, lookup?_append, ← listed, ih h.2]
    cases lookup? f.name entries <;> simp [slot, lookup?, Ne.symm h.1]

theorem listed_slot_append (h : f.name ∉ fields.map (·.name)) (value : Option Literal)
    (l : List (String × Literal)) : listed fields (slot f value ++ l) = listed fields l := by
  refine List.flatMap_congr fun g hg => ?_
  have hne : f.name ≠ g.name := fun he => h (he ▸ List.mem_map_of_mem hg)
  rw [lookup?_slot_append hne]

/-- The entries of the fields in their order, with what each field holds. -/
structure Fills (s : Schema) (entries : List (String × Literal)) (fields : List InputValue)
    (filled : List (String × Literal)) : Prop where
  listed : filled = listed fields filled
  holds : ∀ f ∈ fields, Holds s entries f (lookup? f.name filled)

theorem fills_nil_iff {filled : List (String × Literal)} :
    Fills s entries [] filled ↔ filled = [] :=
  ⟨fun h => h.listed, fun h => ⟨h, nofun⟩⟩

theorem fills_cons_iff (hf : f.name ∉ fields.map (·.name)) {filled : List (String × Literal)} :
    Fills s entries (f :: fields) filled ↔ ∃ value rest, filled = slot f value ++ rest ∧
      Holds s entries f value ∧ Fills s entries fields rest := by
  have hother : ∀ g ∈ fields, f.name ≠ g.name := fun g hg he => hf (he ▸ List.mem_map_of_mem hg)
  constructor
  · rintro ⟨hlisted, hholds⟩
    rw [List.forall_mem_cons] at hholds
    rw [listed, List.flatMap_cons, ← listed] at hlisted
    -- The entry in front is of another name than those of the fields that follow.
    refine ⟨_, listed fields filled, hlisted, hholds.1, ?_, fun g hg => ?_⟩
    · conv_lhs => rw [hlisted, listed_slot_append hf]
    · have hg' : lookup? g.name filled = lookup? g.name (listed fields filled) := by
        conv_lhs => rw [hlisted, lookup?_slot_append (hother g hg)]
      exact hg' ▸ hholds.2 g hg
  · rintro ⟨value, rest, rfl, hvalue, hlisted, hholds⟩
    have hself : lookup? f.name (slot f value ++ rest) = value := by
      rw [lookup?_append, lookup?_slot, hlisted, lookup?_listed_eq_none hf, Option.or_none]
    constructor
    · rw [listed, List.flatMap_cons, hself, ← listed, listed_slot_append hf, ← hlisted]
    · rw [List.forall_mem_cons, hself]
      refine ⟨hvalue, fun g hg => ?_⟩
      rw [lookup?_slot_append (hother g hg)]
      exact hholds g hg

/-- Fields are filled one after another; each is appended under its own name. -/
theorem coerceFields_eq_ok_iff (hnames : (fields.map (·.name)).Nodup)
    (hdone : ∀ f ∈ fields, f.name ∉ done.map Prod.fst) :
    coerceFields s typeName entries fields done = .ok out ↔
      ∃ filled, out = done ++ filled ∧ Fills s entries fields filled := by
  induction fields generalizing done with
  | nil =>
    rw [coerceFields, Except.ok.injEq]
    simp only [fills_nil_iff, exists_eq_right, List.append_nil]
    exact eq_comm
  | cons f fields ih =>
    rw [List.map_cons, List.nodup_cons] at hnames
    rw [List.forall_mem_cons] at hdone
    have hrest : ∀ value, ∀ g ∈ fields, g.name ∉ (done ++ slot f value).map Prod.fst := by
      intro value g hg
      have hne : g.name ≠ f.name := fun he => hnames.1 (he ▸ List.mem_map_of_mem hg)
      cases value <;> simp [slot, hdone.2 g hg, hne]
    simp only [coerceFields_cons_eq_ok_iff, elim_upsert_eq hdone.1, ih hnames.2 (hrest _),
      fills_cons_iff hnames.1]
    constructor
    · rintro ⟨value, hvalue, filled, rfl, hfilled⟩
      exact ⟨_, List.append_assoc .., value, filled, rfl, hvalue, hfilled⟩
    · rintro ⟨_, rfl, value, filled, rfl, hvalue, hfilled⟩
      exact ⟨value, hvalue, filled, (List.append_assoc ..).symm, hfilled⟩

theorem mem_names_of_mem_listed {e : String × Literal} (he : e ∈ listed fields entries) :
    ∃ f ∈ fields, e.1 = f.name := by
  obtain ⟨f, hf, he⟩ := List.mem_flatMap.mp he
  refine ⟨f, hf, ?_⟩
  cases hv : lookup? f.name entries <;> simp_all [slot]

end Fields

/-- An input object is built from the entries of an object, all of which it knows. -/
theorem coerceNamed_object_eq_ok_iff (hs : s.InputFieldsKeyed)
    (hbuiltin : BuiltinScalar.ofName? name = none) {type : InputType}
    (htype : s.inputType? name = some type) {entries : List (String × Literal)} :
    coerceNamed s (object entries) name = .ok w ↔
      (∀ e ∈ entries, type.fields.contains e.1 = true) ∧
        ∃ filled, w = object filled ∧ Fills s entries type.fields.values filled := by
  have hnames : (type.fields.values.map (·.name)).Nodup := by
    rw [(hs.namedBy htype).map_name_values]
    exact type.fields.keys_nodup
  simp only [coerceNamed, hbuiltin, Schema.inputType?_eq_some_iff.mp htype]
  cases hunknown : entries.find? fun e => !type.fields.contains e.1 with
  | some unknown =>
    refine ⟨nofun, fun h => ?_⟩
    have hknown := h.1 unknown (List.mem_of_find?_eq_some hunknown)
    simpa [hknown] using List.find?_some hunknown
  | none =>
    have hknown : ∀ e ∈ entries, type.fields.contains e.1 = true := by
      simpa using List.find?_eq_none.mp hunknown
    have hfields : ∀ filled, coerceFields s type.name entries type.fields.values [] = .ok filled ↔
        Fills s entries type.fields.values filled := by
      intro filled
      rw [coerceFields_eq_ok_iff hnames (by simp)]
      simp only [List.nil_append, exists_eq_left']
    rw [and_iff_right hknown]
    simp only [map_eq_ok_iff, hfields]
    exact exists_congr fun filled => and_comm.trans (and_congr_left' eq_comm)

theorem object_of_coerceNamed (hbuiltin : BuiltinScalar.ofName? name = none) {type : InputType}
    (htype : s.inputType? name = some type) (h : coerceNamed s v name = .ok w) :
    ∃ entries, v = object entries := by
  cases v with
  | object entries => exact ⟨entries, rfl⟩
  | _ =>
    simp only [coerceNamed, hbuiltin, Schema.inputType?_eq_some_iff.mp htype] at h
    cases h

end Literal

end HydrationPlan
