import HydrationPlan.Proofs.Notation
import HydrationPlan.Proofs.Schema.Format.Directive
import HydrationPlan.Schema.Json.Definition

/-!
# The formats of type definitions and schemas

A definition is plain if its types have a notation and its literals are plain. A default of null is
not: it would be read as no default at all.
-/

namespace HydrationPlan

open Json (Slot Record)
open Json.Format (Sound text_sound)

def TypeRef.format : Json.Format TypeRef := ⟨ofJson?, toJson, fun _ t => t.Notated⟩

theorem TypeRef.ofJson?_eq_some {j : Json} {t : TypeRef} (h : ofJson? j = some t) :
    ∃ s, j = .str s ∧ parse s = .ok t := by
  obtain ⟨s, hs, ht⟩ := Option.bind_eq_some_iff.mp h
  cases j <;> cases hs
  refine ⟨s, rfl, ?_⟩
  split at ht
  · rename_i u hu
    cases ht
    exact hu
  · cases ht

theorem TypeRef.format_sound {least : Nat} : format.Sound least where
  printable _ := ⟨trivial, rfl⟩
  read_write {_ t} h := by
    change ofJson? (.str t.text) = some t
    simp only [ofJson?, Json.asString?, Option.bind_eq_bind, Option.bind_some, parse_text h]
  plain h _ := by
    obtain ⟨s, -, hs⟩ := ofJson?_eq_some h
    exact notated_of_parse hs
  depth_le _ _ _ := Nat.zero_le _

namespace InputValue

def Plain (F : Float → Prop) (v : InputValue) : Prop :=
  v.type.Notated ∧ ∀ d ∈ v.defaultValue, d.NonNull F

def format : Json.Format InputValue := ⟨ofJson?, toJson, Plain⟩

def slots : List (Slot InputValue) :=
  [.required "name" .text (·.name), .optional "description" .text (·.description),
    .required "type" TypeRef.format (·.type),
    .optional "defaultValue" Literal.nonNullFormat (·.defaultValue)]

theorem record_format : Record format slots ["name", "description", "type", "defaultValue"] where
  nodup := by decide
  read_iff := by
    simp only [format, ofJson?, Option.bind_eq_bind, Option.bind_eq_some_iff, Option.pure_def,
      Option.some.injEq, slots, List.forall_mem_cons, ← Literal.optional_nonNullFormat]
    intro j v
    constructor
    · rintro ⟨r, hr, name, hname, description, hdescription, type, htype, default, hdefault, rfl⟩
      exact ⟨r, hr, hname, hdescription, htype, hdefault, nofun⟩
    · rintro ⟨r, hr, hname, hdescription, htype, hdefault, -⟩
      exact ⟨r, hr, _, hname, _, hdescription, _, htype, _, hdefault, rfl⟩
  write_eq v := by
    obtain ⟨_, _ | _, _, _ | _⟩ := v <;> rfl
  plain_iff := by
    simp [format, slots, Plain, TypeRef.format, Literal.nonNullFormat]

theorem format_sound : format.Sound 1 := by
  apply Record.sound record_format
  simp only [slots, List.forall_mem_cons]
  exact ⟨Slot.required_sound text_sound, Slot.optional_sound text_sound nofun,
    Slot.required_sound TypeRef.format_sound,
    Slot.optional_sound Literal.nonNullFormat_sound fun h => mt Literal.toJson_eq_null.mp h.2,
    nofun⟩

end InputValue

namespace Field

def Plain (F : Float → Prop) (f : Field) : Prop :=
  f.type.Notated ∧ (∀ a ∈ f.arguments.values, a.Plain F) ∧ ∀ h ∈ f.hydrated, h.Plain F

def format : Json.Format Field := ⟨ofJson?, toJson, Plain⟩

def slots : List (Slot Field) :=
  [.required "name" .text (·.name), .optional "description" .text (·.description),
    .required "type" TypeRef.format (·.type),
    .defaulted "arguments" InputValue.format.table .empty (·.arguments),
    .unlessEmpty "hydrated" Hydrated.format (·.hydrated),
    .optional "idHydrated" IdHydrated.format (·.idHydrated)]

theorem record_format :
    Record format slots ["name", "description", "type", "arguments", "hydrated", "idHydrated"] where
  nodup := by decide
  read_iff := by
    simp only [format, ofJson?, Option.bind_eq_bind, Option.bind_eq_some_iff, Option.pure_def,
      Option.some.injEq, slots, List.forall_mem_cons]
    intro j f
    constructor
    · rintro ⟨r, hr, name, hname, description, hdescription, type, htype, arguments, harguments,
        hydrated, hhydrated, idHydrated, hid, rfl⟩
      exact ⟨r, hr, hname, hdescription, htype, harguments, hhydrated, hid, nofun⟩
    · rintro ⟨r, hr, hname, hdescription, htype, harguments, hhydrated, hid, -⟩
      exact ⟨r, hr, _, hname, _, hdescription, _, htype, _, harguments, _, hhydrated, _, hid, rfl⟩
  write_eq f := by
    obtain ⟨_, _ | _, _, _, _ | _, _ | _⟩ := f <;> rfl
  plain_iff := by
    simp [format, slots, Plain, TypeRef.format, InputValue.format, Hydrated.format,
      IdHydrated.format]

theorem format_sound : format.Sound 6 := by
  apply Record.sound record_format
  simp only [slots, List.forall_mem_cons]
  exact ⟨Slot.required_sound text_sound, Slot.optional_sound text_sound nofun,
    Slot.required_sound TypeRef.format_sound,
    Slot.defaulted_table_sound (Sound.mono InputValue.format_sound (by decide)),
    Slot.unlessEmpty_sound (Sound.list Hydrated.format_sound),
    Slot.optional_sound (Sound.mono IdHydrated.format_sound (by decide)) nofun, nofun⟩

end Field

/-! ## Type definitions

A definition of a kind is written with its kind as a member before the others. -/

namespace FieldedType

def Plain (F : Float → Prop) (t : FieldedType) : Prop := ∀ f ∈ t.fields.values, f.Plain F

def format (kind : String) : Json.Format FieldedType :=
  ⟨ofJson?, fun t => .obj (("kind", .str kind) :: t.members), Plain⟩

def slots (kind : String) : List (Slot FieldedType) :=
  [.tag "kind" kind, .required "name" .text (·.name),
    .optional "description" .text (·.description),
    .defaulted "fields" Field.format.table .empty (·.fields),
    .defaulted "implements" Json.Format.text.list [] (·.implements),
    .optional "defaultHydration" DefaultHydration.format (·.defaultHydration)]

theorem record_format (kind : String) : Record (format kind) (slots kind)
    ["name", "description", "fields", "implements", "defaultHydration"] where
  nodup := by
    change ["kind", "name", "description", "fields", "implements", "defaultHydration"].Nodup
    decide
  read_iff := by
    simp only [format, ofJson?, Option.bind_eq_bind, Option.bind_eq_some_iff, Option.pure_def,
      Option.some.injEq, slots, List.forall_mem_cons]
    intro j t
    constructor
    · rintro ⟨r, hr, name, hname, description, hdescription, fields, hfields, implements,
        himplements, defaultHydration, hdefault, rfl⟩
      exact ⟨r, hr, trivial, hname, hdescription, hfields, himplements, hdefault, nofun⟩
    · rintro ⟨r, hr, -, hname, hdescription, hfields, himplements, hdefault, -⟩
      exact ⟨r, hr, _, hname, _, hdescription, _, hfields, _, himplements, _, hdefault, rfl⟩
  write_eq t := by
    obtain ⟨_, _ | _, _, _, _ | _⟩ := t <;> rfl
  plain_iff := by
    simp [format, slots, Plain, Field.format, DefaultHydration.format]

theorem format_sound (kind : String) : (format kind).Sound 8 := by
  apply (record_format kind).sound
  simp only [slots, List.forall_mem_cons]
  exact ⟨Slot.tag_sound _ _, Slot.required_sound text_sound, Slot.optional_sound text_sound nofun,
    Slot.defaulted_table_sound Field.format_sound, Slot.defaulted_list_sound text_sound,
    Slot.optional_sound (Sound.mono DefaultHydration.format_sound (by decide)) nofun, nofun⟩

end FieldedType

namespace ScalarType

def format (kind : String) : Json.Format ScalarType :=
  ⟨ofJson?, fun t => .obj (("kind", .str kind) :: t.members), fun _ _ => True⟩

def slots (kind : String) : List (Slot ScalarType) :=
  [.tag "kind" kind, .required "name" .text (·.name),
    .optional "description" .text (·.description)]

theorem record_format (kind : String) :
    Record (format kind) (slots kind) ["name", "description"] where
  nodup := by
    change ["kind", "name", "description"].Nodup
    decide
  read_iff := by
    simp only [format, ofJson?, Option.bind_eq_bind, Option.bind_eq_some_iff, Option.pure_def,
      Option.some.injEq, slots, List.forall_mem_cons]
    intro j t
    constructor
    · rintro ⟨r, hr, name, hname, description, hdescription, rfl⟩
      exact ⟨r, hr, trivial, hname, hdescription, nofun⟩
    · rintro ⟨r, hr, -, hname, hdescription, -⟩
      exact ⟨r, hr, _, hname, _, hdescription, rfl⟩
  write_eq t := by
    obtain ⟨_, _ | _⟩ := t <;> rfl
  plain_iff := by
    simp [format, slots]

theorem format_sound (kind : String) : (format kind).Sound 1 := by
  apply (record_format kind).sound
  simp only [slots, List.forall_mem_cons]
  exact ⟨Slot.tag_sound _ _, Slot.required_sound text_sound, Slot.optional_sound text_sound nofun,
    nofun⟩

end ScalarType

namespace UnionType

def format (kind : String) : Json.Format UnionType :=
  ⟨ofJson?, fun t => .obj (("kind", .str kind) :: t.toMembers), fun _ _ => True⟩

def slots (kind : String) : List (Slot UnionType) :=
  [.tag "kind" kind, .required "name" .text (·.name),
    .optional "description" .text (·.description),
    .required "members" Json.Format.text.list (·.members)]

theorem record_format (kind : String) :
    Record (format kind) (slots kind) ["name", "description", "members"] where
  nodup := by
    change ["kind", "name", "description", "members"].Nodup
    decide
  read_iff := by
    simp only [format, ofJson?, Option.bind_eq_bind, Option.bind_eq_some_iff, Option.pure_def,
      Option.some.injEq, slots, List.forall_mem_cons]
    intro j t
    constructor
    · rintro ⟨r, hr, name, hname, description, hdescription, members, hmembers, rfl⟩
      exact ⟨r, hr, trivial, hname, hdescription, hmembers, nofun⟩
    · rintro ⟨r, hr, -, hname, hdescription, hmembers, -⟩
      exact ⟨r, hr, _, hname, _, hdescription, _, hmembers, rfl⟩
  write_eq t := by
    obtain ⟨_, _ | _, _⟩ := t <;> rfl
  plain_iff := by
    simp [format, slots]

theorem format_sound (kind : String) : (format kind).Sound 2 := by
  apply (record_format kind).sound
  simp only [slots, List.forall_mem_cons]
  exact ⟨Slot.tag_sound _ _, Slot.required_sound text_sound, Slot.optional_sound text_sound nofun,
    Slot.required_sound (Sound.list text_sound), nofun⟩

end UnionType

namespace EnumType

def format (kind : String) : Json.Format EnumType :=
  ⟨ofJson?, fun t => .obj (("kind", .str kind) :: t.members), fun _ _ => True⟩

def slots (kind : String) : List (Slot EnumType) :=
  [.tag "kind" kind, .required "name" .text (·.name),
    .optional "description" .text (·.description),
    .required "values" Json.Format.text.list (·.values)]

theorem record_format (kind : String) :
    Record (format kind) (slots kind) ["name", "description", "values"] where
  nodup := by
    change ["kind", "name", "description", "values"].Nodup
    decide
  read_iff := by
    simp only [format, ofJson?, Option.bind_eq_bind, Option.bind_eq_some_iff, Option.pure_def,
      Option.some.injEq, slots, List.forall_mem_cons]
    intro j t
    constructor
    · rintro ⟨r, hr, name, hname, description, hdescription, values, hvalues, rfl⟩
      exact ⟨r, hr, trivial, hname, hdescription, hvalues, nofun⟩
    · rintro ⟨r, hr, -, hname, hdescription, hvalues, -⟩
      exact ⟨r, hr, _, hname, _, hdescription, _, hvalues, rfl⟩
  write_eq t := by
    obtain ⟨_, _ | _, _⟩ := t <;> rfl
  plain_iff := by
    simp [format, slots]

theorem format_sound (kind : String) : (format kind).Sound 2 := by
  apply (record_format kind).sound
  simp only [slots, List.forall_mem_cons]
  exact ⟨Slot.tag_sound _ _, Slot.required_sound text_sound, Slot.optional_sound text_sound nofun,
    Slot.required_sound (Sound.list text_sound), nofun⟩

end EnumType

namespace InputType

def Plain (F : Float → Prop) (t : InputType) : Prop := ∀ v ∈ t.fields.values, v.Plain F

def format (kind : String) : Json.Format InputType :=
  ⟨ofJson?, fun t => .obj (("kind", .str kind) :: t.members), Plain⟩

def slots (kind : String) : List (Slot InputType) :=
  [.tag "kind" kind, .required "name" .text (·.name),
    .optional "description" .text (·.description),
    .defaulted "fields" InputValue.format.table .empty (·.fields)]

theorem record_format (kind : String) :
    Record (format kind) (slots kind) ["name", "description", "fields"] where
  nodup := by
    change ["kind", "name", "description", "fields"].Nodup
    decide
  read_iff := by
    simp only [format, ofJson?, Option.bind_eq_bind, Option.bind_eq_some_iff, Option.pure_def,
      Option.some.injEq, slots, List.forall_mem_cons]
    intro j t
    constructor
    · rintro ⟨r, hr, name, hname, description, hdescription, fields, hfields, rfl⟩
      exact ⟨r, hr, trivial, hname, hdescription, hfields, nofun⟩
    · rintro ⟨r, hr, -, hname, hdescription, hfields, -⟩
      exact ⟨r, hr, _, hname, _, hdescription, _, hfields, rfl⟩
  write_eq t := by
    obtain ⟨_, _ | _, _⟩ := t <;> rfl
  plain_iff := by
    simp [format, slots, Plain, InputValue.format]

theorem format_sound (kind : String) : (format kind).Sound 3 := by
  apply (record_format kind).sound
  simp only [slots, List.forall_mem_cons]
  exact ⟨Slot.tag_sound _ _, Slot.required_sound text_sound, Slot.optional_sound text_sound nofun,
    Slot.defaulted_table_sound InputValue.format_sound, nofun⟩

end InputType

namespace TypeDefinition

def Plain (F : Float → Prop) : TypeDefinition → Prop
  | object t => t.Plain F
  | interface t => t.Plain F
  | inputObject t => t.Plain F
  | _ => True

def format : Json.Format TypeDefinition := ⟨ofJson?, toJson, Plain⟩

/-- The definition is read from the document, whatever kind that tells. -/
def ReadFrom (j : Json) : TypeDefinition → Prop
  | scalar t => ScalarType.ofJson? j = some t
  | object t => FieldedType.ofJson? j = some t
  | interface t => FieldedType.ofJson? j = some t
  | union t => UnionType.ofJson? j = some t
  | enum t => EnumType.ofJson? j = some t
  | inputObject t => InputType.ofJson? j = some t

theorem ReadFrom.ofKind? {j : Json} {t : TypeDefinition} (h : t.ReadFrom j) :
    ofKind? t.kind j = some t := by
  cases t <;> exact Option.map_eq_some_iff.mpr ⟨_, h, rfl⟩

theorem readFrom_of_ofKind? {kind : String} {j : Json} {t : TypeDefinition}
    (h : ofKind? kind j = some t) : t.ReadFrom j := by
  unfold TypeDefinition.ofKind? at h
  split at h
  case h_7 => cases h
  all_goals
    obtain ⟨d, hd, rfl⟩ := Option.map_eq_some_iff.mp h
    exact hd

/-- The document that a definition is read from is a part of the one that tells its kind. -/
theorem ofJson?_eq_some {j : Json} {t : TypeDefinition} (h : ofJson? j = some t) :
    ∃ i, t.ReadFrom i ∧ (∀ {F}, j.Proper F → i.Proper F) ∧ ∀ {n}, j.depth ≤ n → i.depth ≤ n := by
  unfold TypeDefinition.ofJson? at h
  split at h
  · cases h
  · split at h
    · obtain ⟨r, -, hrequired⟩ := Option.bind_eq_some_iff.mp h
      obtain ⟨kind, -, hkind⟩ := Option.bind_eq_some_iff.mp hrequired
      exact ⟨_, readFrom_of_ofKind? hkind, id, id⟩
    · rename_i kind items
      refine ⟨_, readFrom_of_ofKind? h, fun hj => ?_, fun {n} hj => ?_⟩
      · rw [Json.proper_arr_iff] at hj ⊢
        exact fun i hi => hj i (List.mem_cons_of_mem _ hi)
      · obtain ⟨n, rfl⟩ := Nat.exists_eq_add_of_le' (Nat.le_trans (Nat.le_add_left 1 _) hj)
        rw [Json.depth_arr_le] at hj ⊢
        exact fun i hi => hj i (List.mem_cons_of_mem _ hi)
    · cases h

theorem readFrom_toJson {F : Float → Prop} {t : TypeDefinition} (h : t.Plain F) :
    t.ReadFrom t.toJson := by
  cases t with
  | scalar t => exact (ScalarType.format_sound "scalar").read_write (F := F) trivial
  | object t => exact (FieldedType.format_sound "object").read_write h
  | interface t => exact (FieldedType.format_sound "interface").read_write h
  | union t => exact (UnionType.format_sound "union").read_write (F := F) trivial
  | enum t => exact (EnumType.format_sound "enum").read_write (F := F) trivial
  | inputObject t => exact (InputType.format_sound "inputObject").read_write h

/-- The kind is written once. -/
theorem kind_of_toJson (t : TypeDefinition) : ∃ members,
    Json.record? ["kind"] t.toJson = some members ∧
      Json.required members "kind" Json.asString? = some t.kind := by
  cases t with
  | scalar t => exact ⟨_, (ScalarType.record_format "scalar").record?_write _ t, rfl⟩
  | object t => exact ⟨_, (FieldedType.record_format "object").record?_write _ t, rfl⟩
  | interface t => exact ⟨_, (FieldedType.record_format "interface").record?_write _ t, rfl⟩
  | union t => exact ⟨_, (UnionType.record_format "union").record?_write _ t, rfl⟩
  | enum t => exact ⟨_, (EnumType.record_format "enum").record?_write _ t, rfl⟩
  | inputObject t => exact ⟨_, (InputType.record_format "inputObject").record?_write _ t, rfl⟩

theorem printable_toJson {F : Float → Prop} {t : TypeDefinition} (h : t.Plain F) :
    t.toJson.Printable F := by
  cases t with
  | scalar t => exact (ScalarType.format_sound "scalar").printable trivial
  | object t => exact (FieldedType.format_sound "object").printable h
  | interface t => exact (FieldedType.format_sound "interface").printable h
  | union t => exact (UnionType.format_sound "union").printable trivial
  | enum t => exact (EnumType.format_sound "enum").printable trivial
  | inputObject t => exact (InputType.format_sound "inputObject").printable h

theorem format_sound : format.Sound 8 where
  printable := printable_toJson
  read_write {F t} h := by
    have hheld : t.toJson.isHeld = true := (printable_toJson h).held
    obtain ⟨members, hmembers, hkind⟩ := kind_of_toJson t
    change ofJson? t.toJson = some t
    unfold TypeDefinition.ofJson?
    rw [hheld]
    change ((Json.record? ["kind"] t.toJson).bind fun r =>
      (Json.required r "kind" Json.asString?).bind fun kind => ofKind? kind t.toJson) = some t
    rw [hmembers, Option.bind_some, hkind, Option.bind_some]
    exact (readFrom_toJson h).ofKind?
  plain {j t} h hj := by
    obtain ⟨i, hi, hproper, -⟩ := ofJson?_eq_some h
    cases t with
    | object t => exact (FieldedType.format_sound "object").plain hi (hproper hj)
    | interface t => exact (FieldedType.format_sound "interface").plain hi (hproper hj)
    | inputObject t => exact (InputType.format_sound "inputObject").plain hi (hproper hj)
    | _ => trivial
  depth_le {j t n} h hn hj := by
    obtain ⟨i, hi, -, hdepth⟩ := ofJson?_eq_some h
    cases t with
    | scalar t =>
      exact (ScalarType.format_sound "scalar").depth_le hi (Nat.le_trans (by decide) hn) (hdepth hj)
    | object t => exact (FieldedType.format_sound "object").depth_le hi hn (hdepth hj)
    | interface t => exact (FieldedType.format_sound "interface").depth_le hi hn (hdepth hj)
    | union t =>
      exact (UnionType.format_sound "union").depth_le hi (Nat.le_trans (by decide) hn) (hdepth hj)
    | enum t =>
      exact (EnumType.format_sound "enum").depth_le hi (Nat.le_trans (by decide) hn) (hdepth hj)
    | inputObject t =>
      exact (InputType.format_sound "inputObject").depth_le hi (Nat.le_trans (by decide) hn)
        (hdepth hj)

end TypeDefinition

namespace Schema

def Plain (F : Float → Prop) (s : Schema) : Prop := ∀ t ∈ s.types.values, t.Plain F

def format : Json.Format Schema := ⟨ofJson?, toJson, Plain⟩

def slots : List (Slot Schema) :=
  [.optional "queryType" .text (·.queryType),
    .defaulted "types" TypeDefinition.format.table .empty (·.types)]

theorem record_format : Record format slots ["queryType", "types"] where
  nodup := by decide
  read_iff := by
    simp only [format, ofJson?, Option.bind_eq_bind, Option.bind_eq_some_iff, Option.pure_def,
      Option.some.injEq, slots, List.forall_mem_cons]
    intro j s
    constructor
    · rintro ⟨r, hr, queryType, hquery, types, htypes, rfl⟩
      exact ⟨r, hr, hquery, htypes, nofun⟩
    · rintro ⟨r, hr, hquery, htypes, -⟩
      exact ⟨r, hr, _, hquery, _, htypes, rfl⟩
  write_eq s := by
    obtain ⟨_ | _, _⟩ := s <;> rfl
  plain_iff := by
    simp [format, slots, Plain, TypeDefinition.format]

theorem format_sound : format.Sound 10 := by
  apply Record.sound record_format
  simp only [slots, List.forall_mem_cons]
  exact ⟨Slot.optional_sound text_sound nofun,
    Slot.defaulted_table_sound TypeDefinition.format_sound, nofun⟩

end Schema

end HydrationPlan
