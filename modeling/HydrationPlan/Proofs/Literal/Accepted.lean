import HydrationPlan.Proofs.Literal.Normal

/-!
# Which literals are values of a type

The rules of input coercion are told without the values they give. A literal is coerced to a type
exactly if these rules accept it for the type, and an object loses none of its entries on the way.
-/

namespace HydrationPlan

namespace BuiltinScalar

def name : BuiltinScalar → String
  | int => "Int"
  | float => "Float"
  | string => "String"
  | boolean => "Boolean"
  | id => "ID"

theorem name_eq_of_ofName? {name : String} {scalar : BuiltinScalar}
    (h : ofName? name = some scalar) : scalar.name = name := by
  unfold ofName? at h
  split at h <;> cases h <;> rfl

end BuiltinScalar

namespace Literal

variable {s : Schema} {v w : Literal} {t e : TypeRef} {name : String}

/-- The input coercion of GraphQL, by the forms of literal and type. The five scalars that every
schema has mean the same whatever a schema stores under their names. -/
inductive Accepts (s : Schema) : Literal → TypeRef → Prop
  | null {t : TypeRef} : Accepts s null (.nullable t)
  | nullable {v : Literal} {t : TypeRef} (hv : v ≠ null) (h : Accepts s v t) :
      Accepts s v (.nullable t)
  | items {items : List Literal} {e : TypeRef} (h : ∀ u ∈ items, Accepts s u e) :
      Accepts s (list items) (.list e)
  | single {v : Literal} {e : TypeRef} (hv : v ≠ null) (hlist : ∀ items, v ≠ list items)
      (h : Accepts s v e) : Accepts s v (.list e)
  | int {n : Int64} (hmin : -2 ^ 31 ≤ n.toInt) (hmax : n.toInt < 2 ^ 31) :
      Accepts s (int n) (.named "Int")
  | float {x : Float} : Accepts s (float x) (.named "Float")
  | floatOfInt {n : Int64} : Accepts s (int n) (.named "Float")
  | string {text : String} : Accepts s (string text) (.named "String")
  | boolean {b : Bool} : Accepts s (boolean b) (.named "Boolean")
  | id {text : String} : Accepts s (string text) (.named "ID")
  | idOfInt {n : Int64} : Accepts s (int n) (.named "ID")
  | scalar {v : Literal} {name : String} {type : ScalarType} (hname : name ∉ builtinScalars)
      (htype : s.type? name = some (.scalar type)) (hv : v ≠ null) : Accepts s v (.named name)
  | enum {value name : String} {type : EnumType} (hname : name ∉ builtinScalars)
      (htype : s.type? name = some (.enum type)) (hvalue : value ∈ type.values) :
      Accepts s (enum value) (.named name)
  | enumOfString {value name : String} {type : EnumType} (hname : name ∉ builtinScalars)
      (htype : s.type? name = some (.enum type)) (hvalue : value ∈ type.values) :
      Accepts s (string value) (.named name)
  | inputObject {entries : List (String × Literal)} {name : String} {type : InputType}
      (hname : name ∉ builtinScalars) (htype : s.type? name = some (.inputObject type))
      (hknown : ∀ e ∈ entries, e.1 ∈ type.fields.keys)
      (hentries : ∀ f ∈ type.fields.values, ∀ u, lookup? f.name entries = some u →
        Accepts s u f.type)
      (habsent : ∀ f ∈ type.fields.values, lookup? f.name entries = none →
        f.defaultValue.isSome = true ∨ f.type.isNullable = true) :
      Accepts s (object entries) (.named name)

/-- The literal has a value of the type exactly if the rules accept it. -/
def Agrees (s : Schema) (v : Literal) (t : TypeRef) : Prop :=
  (∃ w, coerce s v t = .ok w) ↔ Accepts s v t

theorem isNull_eq_false_iff : v.isNull = false ↔ v ≠ null := by
  cases v <;> simp [isNull]

theorem accepts_nullable_iff (hv : v.isNull = false) :
    Accepts s v (.nullable t) ↔ Accepts s v t := by
  constructor
  · intro h
    cases h with
    | null => cases hv
    | nullable _ h => exact h
  · exact .nullable (isNull_eq_false_iff.mp hv)

theorem accepts_list_iff :
    Accepts s v (.list e) ↔ v.isNull = false ∧ ∀ u ∈ v.asItems, Accepts s u e := by
  constructor
  · intro h
    cases h with
    | items h => exact ⟨rfl, h⟩
    | single hv hlist h =>
      refine ⟨isNull_eq_false_iff.mpr hv, ?_⟩
      cases v with
      | list items => exact absurd rfl (hlist items)
      | _ => exact List.forall_mem_singleton.mpr h
  · rintro ⟨hv, h⟩
    cases v with
    | list items => exact .items h
    | _ => exact .single (isNull_eq_false_iff.mp hv) nofun (h _ (List.mem_singleton_self _))

theorem agrees_nullable (ih : Agrees s v t) : Agrees s v (.nullable t) := by
  rw [Agrees]
  simp only [coerce_nullable]
  cases hv : v.isNull with
  | true =>
    cases v with
    | null => exact iff_of_true ⟨null, rfl⟩ .null
    | _ => cases hv
  | false =>
    rw [accepts_nullable_iff hv]
    exact ih

theorem agrees_list (ih : ∀ u ∈ v.asItems, Agrees s u e) : Agrees s v (.list e) := by
  have hitems : (∃ ws, List.Forall₂ (fun v w => coerce s v e = .ok w) v.asItems ws) ↔
      ∀ u ∈ v.asItems, Accepts s u e :=
    exists_forall₂_iff.trans (forall₂_congr ih)
  rw [Agrees, accepts_list_iff, ← hitems]
  simp only [coerce_list_eq_ok_iff]
  constructor
  · rintro ⟨_, hv, ws, rfl, hws⟩
    exact ⟨hv, ws, hws⟩
  · rintro ⟨hv, ws, hws⟩
    exact ⟨list ws, hv, ws, rfl, hws⟩

theorem fitsInt32_iff {n : Int64} :
    fitsInt32 n = true ↔ -2 ^ 31 ≤ n.toInt ∧ n.toInt < 2 ^ 31 := by
  have hmin : Int32.minValue.toInt = -2 ^ 31 := by decide
  have hmax : Int32.maxValue.toInt = 2 ^ 31 - 1 := by decide
  rw [fitsInt32, Bool.and_eq_true, decide_eq_true_eq, decide_eq_true_eq, hmin, hmax]
  omega

theorem accepts_of_coerceBuiltin {scalar : BuiltinScalar}
    (hname : BuiltinScalar.ofName? name = some scalar) (h : coerceBuiltin name scalar v = .ok w) :
    Accepts s v (.named name) := by
  obtain rfl := BuiltinScalar.name_eq_of_ofName? hname
  unfold coerceBuiltin at h
  split at h
  · split at h
    · rename_i hfits
      obtain ⟨hmin, hmax⟩ := fitsInt32_iff.mp hfits
      exact .int hmin hmax
    · cases h
  · exact .floatOfInt
  · exact .float
  · exact .string
  · exact .boolean
  · exact .id
  · exact .idOfInt
  · cases h

theorem accepts_of_coerceEnum (hname : name ∉ builtinScalars) {type : EnumType}
    (htype : s.type? name = some (.enum type)) (h : coerceEnum name type v = .ok w) :
    Accepts s v (.named name) := by
  obtain ⟨value, hvalue, hmem, -⟩ := coerceEnum_eq_ok_iff.mp h
  unfold enumName? at hvalue
  split at hvalue <;> cases hvalue
  · exact .enum hname htype hmem
  · exact .enumOfString hname htype hmem

section Entries

variable {entries : List (String × Literal)} {f : InputValue} {fields : List InputValue}

/-- A field holds something if its entry can be coerced, or else if nothing or a default stands for
the entry. -/
theorem exists_holds_iff :
    (∃ value, Holds s entries f value) ↔
      (∀ u, lookup? f.name entries = some u → ∃ w, coerce s u f.type = .ok w) ∧
        (lookup? f.name entries = none →
          f.defaultValue.isSome = true ∨ f.type.isNullable = true) := by
  constructor
  · rintro ⟨value, ⟨hv, hw⟩ | ⟨hv, hd⟩ | ⟨hv, -, hnull⟩⟩
    · refine ⟨fun u hu => ?_, fun hnone => ?_⟩
      · cases hv.symm.trans hu
        exact ⟨_, hw⟩
      · cases hv.symm.trans hnone
    · simp [hv, hd]
    · simp [hv, hnull]
  · rintro ⟨hentry, habsent⟩
    cases hv : lookup? f.name entries with
    | some u =>
      obtain ⟨w, hw⟩ := hentry u hv
      exact ⟨some w, .entry hv hw⟩
    | none =>
      cases hd : f.defaultValue with
      | some d => exact ⟨some d, .default hv hd⟩
      | none =>
        rw [hd] at habsent
        exact ⟨none, .absent hv hd ((habsent hv).resolve_left Bool.false_ne_true)⟩

theorem exists_fills_iff (hnames : (fields.map (·.name)).Nodup) :
    (∃ filled, Fills s entries fields filled) ↔ ∀ f ∈ fields, ∃ value, Holds s entries f value := by
  induction fields with
  | nil => simp [fills_nil_iff]
  | cons f fields ih =>
    rw [List.map_cons, List.nodup_cons] at hnames
    rw [List.forall_mem_cons, ← ih hnames.2]
    simp only [fills_cons_iff hnames.1]
    constructor
    · rintro ⟨_, value, rest, -, hvalue, hrest⟩
      exact ⟨⟨value, hvalue⟩, rest, hrest⟩
    · rintro ⟨⟨value, hvalue⟩, rest, hrest⟩
      exact ⟨_, value, rest, rfl, hvalue, hrest⟩

end Entries

theorem coerceNamed_object_isOk_iff (hs : s.InputFieldsKeyed)
    (hbuiltin : BuiltinScalar.ofName? name = none) {type : InputType}
    (htype : s.inputType? name = some type) {entries : List (String × Literal)} :
    (∃ w, coerceNamed s (object entries) name = .ok w) ↔
      (∀ e ∈ entries, e.1 ∈ type.fields.keys) ∧
        ∀ f ∈ type.fields.values, ∃ value, Holds s entries f value := by
  have hnames : (type.fields.values.map (·.name)).Nodup := by
    rw [(hs.namedBy htype).map_name_values]
    exact type.fields.keys_nodup
  rw [← exists_fills_iff hnames]
  simp only [coerceNamed_object_eq_ok_iff hs hbuiltin htype, Table.contains, List.contains_iff_mem]
  constructor
  · rintro ⟨_, hknown, filled, rfl, hfills⟩
    exact ⟨hknown, filled, hfills⟩
  · rintro ⟨hknown, filled, hfills⟩
    exact ⟨object filled, hknown, filled, rfl, hfills⟩

theorem accepts_of_coerceNamed (hs : s.InputFieldsKeyed) (hv : v.isNull = false)
    (ih : ∀ u, sizeOf u < sizeOf v → ∀ t, Agrees s u t) (h : coerceNamed s v name = .ok w) :
    Accepts s v (.named name) := by
  cases namedValue_of_coerceNamed h with
  | builtin hscalar hw => exact accepts_of_coerceBuiltin hscalar hw
  | scalar hbuiltin htype =>
    exact .scalar (BuiltinScalar.ofName?_eq_none_iff.mp hbuiltin) htype (isNull_eq_false_iff.mp hv)
  | enum hbuiltin htype hw =>
    exact accepts_of_coerceEnum (BuiltinScalar.ofName?_eq_none_iff.mp hbuiltin) htype hw
  | inputObject hbuiltin htype hw =>
    obtain ⟨hknown, hholds⟩ := (coerceNamed_object_isOk_iff hs hbuiltin htype).mp ⟨_, hw⟩
    simp only [exists_holds_iff] at hholds
    refine .inputObject (BuiltinScalar.ofName?_eq_none_iff.mp hbuiltin)
      (Schema.inputType?_eq_some_iff.mp htype) hknown (fun f hf u hu => ?_)
      fun f hf => (hholds f hf).2
    exact (ih u (sizeOf_entry_lt_object hu) f.type).mp ((hholds f hf).1 u hu)

theorem exists_coerceNamed_of_accepts (hs : s.InputFieldsKeyed)
    (ih : ∀ u, sizeOf u < sizeOf v → ∀ t, Agrees s u t) (h : Accepts s v (.named name)) :
    ∃ w, coerceNamed s v name = .ok w := by
  cases h with
  | int hmin hmax =>
    have hfits := fitsInt32_iff.mpr ⟨hmin, hmax⟩
    simp [coerceNamed, BuiltinScalar.ofName?, coerceBuiltin, hfits]
  | float | floatOfInt | string | boolean | id | idOfInt =>
    simp [coerceNamed, BuiltinScalar.ofName?, coerceBuiltin]
  | scalar hname htype _ =>
    exact ⟨v, by simp only [coerceNamed, BuiltinScalar.ofName?_eq_none_iff.mpr hname, htype]⟩
  | enum hname htype hvalue | enumOfString hname htype hvalue =>
    simp only [coerceNamed, BuiltinScalar.ofName?_eq_none_iff.mpr hname, htype]
    exact ⟨_, coerceEnum_eq_ok_iff.mpr ⟨_, rfl, hvalue, rfl⟩⟩
  | inputObject hname htype hknown hentries habsent =>
    have hbuiltin := BuiltinScalar.ofName?_eq_none_iff.mpr hname
    have hinput := Schema.inputType?_eq_some_iff.mpr htype
    refine (coerceNamed_object_isOk_iff hs hbuiltin hinput).mpr ⟨hknown, fun f hf => ?_⟩
    refine exists_holds_iff.mpr ⟨fun u hu => ?_, habsent f hf⟩
    exact (ih u (sizeOf_entry_lt_object hu) f.type).mpr (hentries f hf u hu)

theorem isNull_of_accepts_named (h : Accepts s v (.named name)) : v.isNull = false := by
  cases h with
  | scalar _ _ hv => exact isNull_eq_false_iff.mpr hv
  | _ => rfl

theorem agrees_named (hs : s.InputFieldsKeyed)
    (ih : ∀ u, sizeOf u < sizeOf v → ∀ t, Agrees s u t) : Agrees s v (.named name) := by
  rw [Agrees]
  simp only [coerce_named_eq_ok_iff]
  constructor
  · rintro ⟨w, hv, hw⟩
    exact accepts_of_coerceNamed hs hv ih hw
  · intro h
    obtain ⟨w, hw⟩ := exists_coerceNamed_of_accepts hs ih h
    exact ⟨w, isNull_of_accepts_named h, hw⟩

theorem agrees (hs : s.InputFieldsKeyed) (v : Literal) (t : TypeRef) : Agrees s v t :=
  coercionInduction (fun _ _ ih => agrees_named hs ih) (fun _ _ ih => agrees_nullable ih)
    (fun _ _ ih => agrees_list ih) v t

/-! ## What becomes of an object -/

section Object

variable {entries filled : List (String × Literal)} {f : InputValue} {fields : List InputValue}

/-- The entries of a filled input object: in declared order those that were given and those that
have a default, each with what its field holds. -/
structure Completes (s : Schema) (type : InputType) (entries filled : List (String × Literal)) :
    Prop where
  inOrder : (filled.map Prod.fst).Sublist type.fields.keys
  mem_names_iff : ∀ k, k ∈ filled.map Prod.fst ↔ k ∈ entries.map Prod.fst ∨
    ∃ f, type.fields.get? k = some f ∧ f.defaultValue.isSome = true
  holds : ∀ f ∈ type.fields.values, Holds s entries f (lookup? f.name filled)

/-- What an object is turned into. A custom scalar takes it as it is, and under list wrappers it
stands alone. -/
inductive Keeps (s : Schema) (entries : List (String × Literal)) : TypeRef → Literal → Prop
  | nullable {t : TypeRef} {w : Literal} (h : Keeps s entries t w) : Keeps s entries (.nullable t) w
  | list {e : TypeRef} {w : Literal} (h : Keeps s entries e w) :
      Keeps s entries (.list e) (list [w])
  | scalar {name : String} {type : ScalarType} (hname : name ∉ builtinScalars)
      (htype : s.type? name = some (.scalar type)) : Keeps s entries (.named name) (object entries)
  | inputObject {name : String} {type : InputType} {filled : List (String × Literal)}
      (hname : name ∉ builtinScalars) (htype : s.type? name = some (.inputObject type))
      (h : Completes s type entries filled) : Keeps s entries (.named name) (object filled)

theorem mem_names_iff : name ∈ entries.map Prod.fst ↔ (lookup? name entries).isSome = true := by
  induction entries with
  | nil => exact iff_of_false List.not_mem_nil Bool.false_ne_true
  | cons e rest ih =>
    rw [List.map_cons, List.mem_cons, lookup?, ih]
    split
    · rename_i he
      exact iff_of_true (.inl he.symm) rfl
    · rename_i he
      exact or_iff_right (Ne.symm he)

theorem names_listed_sublist (fields : List InputValue) (entries : List (String × Literal)) :
    ((listed fields entries).map Prod.fst).Sublist (fields.map (·.name)) := by
  induction fields with
  | nil => exact .slnil
  | cons f fields ih =>
    rw [listed, List.flatMap_cons, List.map_append, List.map_cons, ← listed]
    cases lookup? f.name entries with
    | none => exact ih.cons f.name
    | some v => exact ih.cons_cons f.name

theorem Holds.isSome_iff {value : Option Literal} (h : Holds s entries f value) :
    value.isSome = true ↔ f.name ∈ entries.map Prod.fst ∨ f.defaultValue.isSome = true := by
  rw [mem_names_iff]
  cases h with
  | entry hv hw => simp [hv]
  | default hv hd => simp [hd]
  | absent hv hd hnull => simp [hv, hd]

theorem completes_of_fills {type : InputType} (hfields : type.fields.NamedBy InputValue.name)
    (hknown : ∀ e ∈ entries, e.1 ∈ type.fields.keys)
    (h : Fills s entries type.fields.values filled) : Completes s type entries filled := by
  have hsub : (filled.map Prod.fst).Sublist type.fields.keys := by
    rw [h.listed, ← hfields.map_name_values]
    exact names_listed_sublist _ _
  refine ⟨hsub, fun k => ?_, h.holds⟩
  cases hk : type.fields.get? k with
  | some f =>
    have hf : f ∈ type.fields.values :=
      Table.mem_values_of_mem ((type.fields.get?_eq_some_iff k f).mp hk)
    obtain rfl := hfields.name_eq hk
    simp only [mem_names_iff.trans (h.holds f hf).isSome_iff, Option.some.injEq, exists_eq_left']
  | none =>
    have hnew : k ∉ type.fields.keys := (type.fields.get?_eq_none_iff k).mp hk
    have hentries : k ∉ entries.map Prod.fst := by
      intro hmem
      obtain ⟨e, he, rfl⟩ := List.mem_map.mp hmem
      exact hnew (hknown e he)
    refine iff_of_false (fun hmem => hnew (hsub.subset hmem)) (not_or.mpr ⟨hentries, ?_⟩)
    exact fun ⟨_, hf, _⟩ => nomatch hf

theorem keeps_of_coerceNamed (hs : s.InputFieldsKeyed)
    (h : coerceNamed s (object entries) name = .ok w) : Keeps s entries (.named name) w := by
  cases namedValue_of_coerceNamed h with
  | @builtin _ _ scalar _ hw => cases scalar <;> cases hw
  | scalar hbuiltin htype => exact .scalar (BuiltinScalar.ofName?_eq_none_iff.mp hbuiltin) htype
  | enum _ _ hw => cases hw
  | inputObject hbuiltin htype hw =>
    obtain ⟨hknown, filled, hfilled, hfills⟩ :=
      (coerceNamed_object_eq_ok_iff hs hbuiltin htype).mp hw
    cases hfilled
    refine .inputObject (BuiltinScalar.ofName?_eq_none_iff.mp hbuiltin)
      (Schema.inputType?_eq_some_iff.mp htype) (completes_of_fills (hs.namedBy htype) ?_ hfills)
    exact fun e he => List.contains_iff_mem.mp (hknown e he)

theorem keeps_of_coerce (hs : s.InputFieldsKeyed) (h : coerce s (object entries) t = .ok w) :
    Keeps s entries t w := by
  induction t generalizing w with
  | named name => exact keeps_of_coerceNamed hs (coerce_named_eq_ok_iff.mp h).2
  | nullable t ih => exact .nullable (ih ((coerce_nullable _ t).symm.trans h))
  | list e ih =>
    obtain ⟨-, ws, rfl, hws⟩ := coerce_list_eq_ok_iff.mp h
    cases hws with
    | cons hw hrest =>
      cases hrest
      exact .list (ih hw)

end Object

/-- A literal can be coerced exactly if the rules accept it. An object that is accepted keeps all
its entries, and the only ones that are added are defaults. -/
theorem coerce_isOk_iff_accepts (hs : s.InputFieldsKeyed) :
    (∀ v t, (∃ w, coerce s v t = .ok w) ↔ Accepts s v t) ∧
      ∀ entries t w, coerce s (object entries) t = .ok w → Keeps s entries t w :=
  ⟨fun v t => agrees hs v t, fun _ _ _ h => keeps_of_coerce hs h⟩

/-- A page alone is taken for the list of it. Its entries are put in declared order, a null among
them stays, and the order is filled in. A page that is too large is refused. -/
theorem firstPage_accepted :
    let s := pages (string "OPEN")
    let entries := [("cursor", null), ("size", int 10)]
    let t : TypeRef := .list (.named "Page")
    let w := list [object [("size", int 10), ("cursor", null), ("order", string "OPEN")]]
    s.InputFieldsKeyed ∧ coerce s (object entries) t = .ok w ∧ Accepts s (object entries) t ∧
      Keeps s entries t w ∧ ¬ Accepts s (object [("size", int 3000000000)]) t := by
  intro s entries t w
  have hs : s.InputFieldsKeyed := by decide +kernel
  have hw : coerce s (object entries) t = .ok w := by cbv
  have hlarge : coerce s (object [("size", int 3000000000)]) t =
      .error (.intOutOfRange 3000000000) := by cbv
  obtain ⟨haccepts, hkeeps⟩ := coerce_isOk_iff_accepts hs
  refine ⟨hs, hw, (haccepts _ _).mp ⟨w, hw⟩, hkeeps entries t w hw, fun h => ?_⟩
  obtain ⟨u, hu⟩ := (haccepts _ _).mpr h
  cases hlarge.symm.trans hu

end Literal

end HydrationPlan
